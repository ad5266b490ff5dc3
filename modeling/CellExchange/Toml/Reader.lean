/-! # Reading from the start of a text

A `Reader` reads from the start of a text and gives what it read with the rest, or the place where it
could not go on, with what it expected there (`Slip`). -/

namespace CellExchange.Toml

/-- Where a reader could not go on. -/
structure Slip where
  /-- The text from that place on. -/
  rest : List Char
  /-- What was expected; empty if nothing is known of it. -/
  message : String := ""
  deriving DecidableEq, Repr

/-- A reader of the start of a text. -/
abbrev Reader : Type → Type := StateT (List Char) (Except Slip)

namespace Reader

variable {α : Type}

/-- A reader that cannot go on. -/
def slip (message : String) : Reader α := fun cs => .error ⟨cs, message⟩

/-- Tries one reader, and then another from the same place. -/
def orTry (a b : Reader α) : Reader α := fun cs =>
  match a cs with
  | .ok r => .ok r
  | .error _ => b cs

instance : Alternative Reader where
  failure := slip ""
  orElse a b := orTry a (b ())

/-- A reader that says what it expects where nothing else is known. -/
def expecting (message : String) (a : Reader α) : Reader α := fun cs =>
  match a cs with
  | .ok r => .ok r
  | .error s => .error (if s.message.isEmpty then { s with message } else s)

/-- What there is, or a place where reading cannot go on. -/
def ofOption (message : String) : Option α → Reader α
  | some a => pure a
  | none => slip message

/-- A reader, or nothing read. -/
def maybe (a : Reader α) : Reader (Option α) := fun cs =>
  match a cs with
  | .ok (x, rest) => .ok (some x, rest)
  | .error _ => .ok (none, cs)

/-- One given character. -/
def char (c : Char) : Reader Unit := fun
  | d :: rest => if d = c then .ok ((), rest) else .error ⟨d :: rest, ""⟩
  | [] => .error ⟨[], ""⟩

/-- One character of a class. -/
def one (p : Char → Bool) : Reader Char := fun
  | c :: rest => if p c then .ok (c, rest) else .error ⟨c :: rest, ""⟩
  | [] => .error ⟨[], ""⟩

/-- All characters of a class from the place on. -/
def many (p : Char → Bool) : Reader (List Char) := fun cs =>
  .ok (cs.takeWhile p, cs.dropWhile p)

/-- Given characters. -/
def word : List Char → Reader Unit
  | [] => pure ()
  | c :: rest => do
    char c
    word rest

/-- So many characters of a class. -/
def exactly (p : Char → Bool) : Nat → Reader (List Char)
  | 0 => pure []
  | n + 1 => do
    let c ← one p
    return c :: (← exactly p n)

/-- The next character, which is not taken. -/
def peek : Reader (Option Char) := fun cs => .ok (cs.head?, cs)

end Reader

end CellExchange.Toml
