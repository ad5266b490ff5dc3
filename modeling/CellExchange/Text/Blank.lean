/-! # Blank characters and trimming

Text arrives with stray blanks around it: fields of a cell file, radio names, lines of settings. A
character is *blank* (`isBlank`) when it has the Unicode property White_Space, which takes in the
no-break space and the ideographic space besides the ASCII ones. `trim` drops the blanks at both
ends of a text and keeps those inside it; `collapsed` makes one space of each run inside. -/

namespace CellExchange.Text

/-- Whether a character has the Unicode property White_Space. -/
def isBlank (c : Char) : Bool :=
  let n := c.toNat
  (9 ≤ n && n ≤ 13) || n == 0x20 || n == 0x85 || n == 0xA0 || n == 0x1680 ||
    (0x2000 ≤ n && n ≤ 0x200A) || n == 0x2028 || n == 0x2029 || n == 0x202F || n == 0x205F ||
    n == 0x3000

/-- A text without the blanks at its start. -/
def trimStart (cs : List Char) : List Char := cs.dropWhile isBlank

/-- A text without the blanks at its end. -/
def trimEnd (cs : List Char) : List Char := (cs.reverse.dropWhile isBlank).reverse

/-- A text without the blanks at either end. -/
def trim (cs : List Char) : List Char := trimEnd (trimStart cs)

@[simp] theorem trim_nil : trim [] = [] := rfl

/-- A string without the blanks at either end. -/
def trimmed (s : String) : String := String.ofList (trim s.toList)

/-- The words of a text: what stands between blanks. -/
def words (cs : List Char) : List (List Char) :=
  (cs.splitOnP isBlank).filter (!·.isEmpty)

/-- A string with one space for each run of blanks, and none at either end. -/
def collapsed (s : String) : String := String.ofList (List.intercalate [' '] (words s.toList))

/-- Whether two texts agree up to the case of ASCII letters. -/
def sameLetters (a b : List Char) : Bool := a.map Char.toLower == b.map Char.toLower

end CellExchange.Text
