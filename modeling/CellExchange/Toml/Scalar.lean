import CellExchange.Double.Decimal
import CellExchange.Toml.Node
import CellExchange.Toml.Reader

/-! # Values of settings

How the values of a document of settings are written, all but arrays and tables: texts in quotation
marks, whole numbers, numbers with a fraction, dates and times, and truth values. -/

namespace CellExchange.Toml

open Reader

/-! ## Blanks -/

/-- Whether a character is a space or a tab. -/
def isBlank (c : Char) : Bool := c == ' ' || c == '\t'

/-- Whether a character may stand in the text of a line, outside special places. -/
def isLineChar (c : Char) : Bool := c == '\t' || (32 ≤ c.toNat && c.toNat ≠ 127)

/-- Spaces and tabs. -/
def blanks : Reader Unit := do let _ ← many isBlank

/-- The end of a line. -/
def newline : Reader Unit := orTry (char '\n') (word ['\r', '\n'])

/-- A comment without the end of its line. -/
def comment : Reader Unit := do
  char '#'
  let _ ← many isLineChar

/-- The end of a line or of the text. -/
def lineEnd : Reader Unit := fun
  | [] => .ok ((), [])
  | cs => newline cs

/-- The rest of a line behind a value or a header. -/
def lineRest : Reader Unit := do
  blanks
  let _ ← maybe comment
  expecting "expected newline, `#`" lineEnd

/-- Blanks, comments and ends of lines, as they may stand inside an array; `bound` is at least the
number of characters. -/
def gap : Nat → Reader Unit
  | 0 => blanks
  | bound + 1 => do
    blanks
    match ← peek with
    | some '#' =>
      comment
      newline
      gap bound
    | some '\n' =>
      newline
      gap bound
    | some '\r' =>
      newline
      gap bound
    | _ => return

/-! ## Texts -/

/-- The value of hexadecimal digits. -/
def hexValue (cs : List Char) : Nat :=
  cs.foldl (fun n c => 16 * n + (Numeral.digit? 16 c).getD 0) 0

/-- A character by so many hexadecimal digits. -/
def codePoint (digits : Nat) : Reader Char := do
  let n := hexValue (← exactly (fun c => (Numeral.digit? 16 c).isSome) digits)
  if n.isValidChar then return Char.ofNat n else failure

/-- What stands behind a backslash. -/
def escaped : Reader Char := do
  match ← one fun _ => true with
  | 'b' => return Char.ofNat 8
  | 'f' => return Char.ofNat 12
  | 'n' => return '\n'
  | 'r' => return '\r'
  | 't' => return '\t'
  | '\\' => return '\\'
  | '"' => return '"'
  | 'u' => codePoint 4
  | 'U' => codePoint 8
  | _ => failure

/-- The rest of a text between single marks; `bound` is more than the number of characters. -/
def lineText (found : List Char) : Nat → Reader String
  | 0 => failure
  | bound + 1 => do
    match ← one fun _ => true with
    | '"' => return String.ofList found.reverse
    | '\\' => lineText ((← escaped) :: found) bound
    | c => if isLineChar c then lineText (c :: found) bound else failure

/-- The rest of a text in which nothing is escaped. -/
def plainLineText : Reader String := do
  let s ← many fun c => isLineChar c && c != '\''
  char '\''
  return String.ofList s

/-- The end of a line inside a text, which counts as a line feed. -/
def textNewline : Reader Char := do
  newline
  return '\n'

/-- A backslash at the end of a line: the line goes on at the next character that is no blank and
ends no line. -/
def continuation (bound : Nat) : Reader Unit := do
  blanks
  newline
  let rec skip : Nat → Reader Unit
    | 0 => return
    | n + 1 => do
      blanks
      match ← maybe newline with
      | some _ => skip n
      | none => return
  skip bound

/-- The marks at the end of a text over several lines: three, with up to two before them that belong
to the text. -/
def closing (mark : Char) : Reader (List Char) := do
  let marks ← many (· == mark)
  if 3 ≤ marks.length ∧ marks.length ≤ 5 then return marks.drop 3 else failure

/-- The rest of a text over several lines. -/
def longText (found : List Char) : Nat → Reader String
  | 0 => failure
  | bound + 1 =>
    orTry (do return String.ofList (found.reverse ++ (← closing '"'))) <| do
      match ← maybe textNewline with
      | some c => longText (c :: found) bound
      | none =>
        match ← one fun _ => true with
        | '\\' =>
          match ← maybe (continuation bound) with
          | some _ => longText found bound
          | none => longText ((← escaped) :: found) bound
        | '"' => do
          let marks ← many (· == '"')
          if 2 ≤ marks.length then failure else longText (marks ++ '"' :: found) bound
        | c => if isLineChar c then longText (c :: found) bound else failure

/-- The rest of a text over several lines in which nothing is escaped. -/
def plainLongText (found : List Char) : Nat → Reader String
  | 0 => failure
  | bound + 1 =>
    orTry (do return String.ofList (found.reverse ++ (← closing '\''))) <| do
      match ← maybe textNewline with
      | some c => plainLongText (c :: found) bound
      | none =>
        match ← one fun _ => true with
        | '\'' => do
          let marks ← many (· == '\'')
          if 2 ≤ marks.length then failure else plainLongText (marks ++ '\'' :: found) bound
        | c => if isLineChar c then plainLongText (c :: found) bound else failure

/-- A text over one line. -/
def shortText (bound : Nat) : Reader String :=
  orTry (do char '"'; lineText [] bound) (do char '\''; plainLineText)

/-- A text. -/
def text (bound : Nat) : Reader String := do
  match ← maybe (word ['"', '"', '"']) with
  | some _ =>
    let _ ← maybe newline
    longText [] bound
  | none =>
    match ← maybe (word ['\'', '\'', '\'']) with
    | some _ =>
      let _ ← maybe newline
      plainLongText [] bound
    | none => shortText bound

/-! ## Numbers -/

/-- Digits with single underscores between them. -/
def groupedDigits (p : Char → Bool) : List Char → Option (List Char × List Char)
  | [] => some ([], [])
  | '_' :: rest =>
    match rest with
    | c :: _ => if p c then groupedDigits p rest else none
    | [] => none
  | c :: rest =>
    if p c then (groupedDigits p rest).map fun r => (c :: r.1, r.2) else some ([], c :: rest)

/-- At least one digit, with single underscores between them. -/
def digits (p : Char → Bool) : Reader (List Char) := fun
  | c :: rest =>
    match if p c then groupedDigits p (c :: rest) else none with
    | some r => .ok r
    | none => .error ⟨c :: rest, ""⟩
  | [] => .error ⟨[], ""⟩

/-- A sign, if there is one. -/
def sign : Reader (List Char) := do
  return (← maybe (one fun c => c == '+' || c == '-')).toList

/-- A decimal whole number without needless zeros, its sign and digits. -/
def decimalDigits : Reader (List Char) := do
  let s ← sign
  match ← peek with
  | some '0' =>
    char '0'
    return s ++ ['0']
  | _ => return s ++ (← digits Char.isDigit)

/-- The value of a whole number, which has to fit in 64 bits with a sign. -/
def wholeOf (radix : Nat) (cs : List Char) : Reader Node :=
  match Numeral.readSigned .int64 radix cs with
  | .ok n => pure (.whole (.ofInt n))
  | .error _ => failure

/-- A whole number in hexadecimal, octal, binary or decimal digits. -/
def whole : Reader Node := fun cs =>
  let digitsOf (radix : Nat) (rest : List Char) : Except Slip (Node × List Char) :=
    (do wholeOf radix (← digits fun c => (Numeral.digit? radix c).isSome) : Reader Node) rest
  match cs with
  | '0' :: 'x' :: rest => digitsOf 16 rest
  | '0' :: 'o' :: rest => digitsOf 8 rest
  | '0' :: 'b' :: rest => digitsOf 2 rest
  | cs => (do wholeOf 10 (← decimalDigits) : Reader Node) cs

/-- An exponent. -/
def exponent : Reader (List Char) := do
  let _ ← one fun c => c == 'e' || c == 'E'
  let s ← sign
  return 'e' :: s ++ (← digits Char.isDigit)

/-- A number with a fraction or an exponent; it must not be beyond every finite one above. -/
def real : Reader Node := do
  let before ← decimalDigits
  let behind ← orTry exponent do
    char '.'
    let fraction ← digits Char.isDigit
    let e ← maybe exponent
    return '.' :: fraction ++ e.getD []
  match Double.read? (before ++ behind) with
  | some (.infinite false) => failure
  | some _ => return .real
  | none => failure

/-- Infinity or not-a-number. -/
def special : Reader Node := do
  let _ ← sign
  orTry (word ['i', 'n', 'f']) (word ['n', 'a', 'n'])
  return .real

/-! ## Dates and times -/

/-- A number of so many digits within limits. -/
def field (digits low high : Nat) : Reader Nat := do
  let cs ← exactly Char.isDigit digits
  let n := cs.foldl (fun n c => 10 * n + (c.toNat - 48)) 0
  if low ≤ n ∧ n ≤ high then return n else failure

/-- How many days a month has. -/
def daysOf (year month : Nat) : Nat :=
  if month = 2 then
    if year % 4 = 0 ∧ (year % 100 ≠ 0 ∨ year % 400 = 0) then 29 else 28
  else if month = 4 ∨ month = 6 ∨ month = 9 ∨ month = 11 then 30
  else 31

/-- A date. -/
def date : Reader Unit := do
  let year ← field 4 0 9999
  char '-'
  let month ← field 2 1 12
  char '-'
  let _ ← field 2 1 (daysOf year month)

/-- A time of the day. -/
def clock : Reader Unit := do
  let _ ← field 2 0 23
  char ':'
  let _ ← field 2 0 59
  char ':'
  let _ ← field 2 0 60
  let _ ← maybe do
    char '.'
    let _ ← exactly Char.isDigit 1
    many Char.isDigit

/-- The distance from universal time. -/
def offset : Reader Unit :=
  orTry (do let _ ← one fun c => c == 'Z' || c == 'z') <| do
    let _ ← one fun c => c == '+' || c == '-'
    let _ ← field 2 0 23
    char ':'
    let _ ← field 2 0 59

/-- A date, a time, or both. -/
def time : Reader Node := do
  let dated : Reader Unit := do
    date
    let _ ← maybe do
      let _ ← one fun c => c == 'T' || c == 't' || c == ' '
      clock
      let _ ← maybe offset
  orTry dated clock
  return .time

/-! ## Values -/

/-- What is said of a value that makes no sense. -/
def noValue : String := "invalid string\nexpected `\"`, `'`"

/-- A value that is no array and no table. -/
def scalar (bound : Nat) : Reader Node := expecting noValue do
  match ← peek with
  | some '"' => return .text (← text bound)
  | some '\'' => return .text (← text bound)
  | some 't' =>
    word ['t', 'r', 'u', 'e']
    return .truth true
  | some 'f' =>
    word ['f', 'a', 'l', 's', 'e']
    return .truth false
  | some c =>
    if c.isDigit || c == '+' || c == '-' then orTry time (orTry real (orTry special whole))
    else if c == 'i' || c == 'n' then special
    else failure
  | none => failure

end CellExchange.Toml
