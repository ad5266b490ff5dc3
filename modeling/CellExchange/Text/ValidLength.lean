/-! # How far bytes are text

How many bytes at the start of some bytes are whole characters of UTF-8 (`validLength`). A first byte
tells how many bytes its character has, and which bytes may come second; the others are those that
begin with the bits 10. -/

namespace CellExchange.Text

/-- Whether a byte may be a byte of a character behind the first. -/
def isContinuation (b : UInt8) : Bool := 0x80 ≤ b && b ≤ 0xBF

/-- Whether a byte may stand second in a character of three bytes. -/
def isSecondOfThree (first second : UInt8) : Bool :=
  isContinuation second && (first != 0xE0 || 0xA0 ≤ second) && (first != 0xED || second ≤ 0x9F)

/-- Whether a byte may stand second in a character of four bytes. -/
def isSecondOfFour (first second : UInt8) : Bool :=
  isContinuation second && (first != 0xF0 || 0x90 ≤ second) && (first != 0xF4 || second ≤ 0x8F)

/-- The number of bytes of the character at the start of some bytes. -/
def characterLength? : List UInt8 → Option Nat
  | [] => none
  | a :: rest =>
    if a < 0x80 then some 1
    else if 0xC2 ≤ a && a ≤ 0xDF then
      match rest with
      | b :: _ => if isContinuation b then some 2 else none
      | [] => none
    else if 0xE0 ≤ a && a ≤ 0xEF then
      match rest with
      | b :: c :: _ => if isSecondOfThree a b && isContinuation c then some 3 else none
      | _ => none
    else if 0xF0 ≤ a && a ≤ 0xF4 then
      match rest with
      | b :: c :: d :: _ =>
        if isSecondOfFour a b && isContinuation c && isContinuation d then some 4 else none
      | _ => none
    else none

/-- The number of bytes at the start that are whole characters; `skip` of them are known to be. -/
def validFrom (skip : Nat) : List UInt8 → Nat
  | [] => 0
  | b :: rest =>
    match skip with
    | n + 1 => validFrom n rest + 1
    | 0 =>
      match characterLength? (b :: rest) with
      | some length => validFrom (length - 1) rest + 1
      | none => 0

/-- The number of bytes at the start that are whole characters. -/
def validLength (bytes : List UInt8) : Nat := validFrom 0 bytes

end CellExchange.Text
