import CellExchange.Text.Unprintable

/-! # Quoted text

How a text is shown inside a message: between double quotes, with a backslash before a quote or a
backslash, short escapes for tab, line feed, carriage return and NUL, and `\u` with the code point
in hexadecimal between braces for every other character that does not print by itself. -/

namespace CellExchange.Text

/-- The lower-case hexadecimal digits of a number, without leading zeros. -/
def hexDigits (n : Nat) : List Char := Nat.toDigits 16 n

/-- A character by its code point: backslash, `u`, and the hexadecimal digits between braces. -/
def codePointEscape (c : Char) : List Char :=
  ['\\', 'u', '{'] ++ hexDigits c.toNat ++ ['}']

/-- Whether a character is shown by its code point. -/
def showsCodePoint (c : Char) : Bool :=
  if c.toNat < 0x80 then c.toNat < 0x20 || c.toNat == 0x7F else isUnprintable c.toNat

/-- A character as it stands in quoted text. -/
def quotedChar (c : Char) : List Char :=
  if c = '"' then ['\\', '"']
  else if c = '\\' then ['\\', '\\']
  else if c = '\t' then ['\\', 't']
  else if c = '\n' then ['\\', 'n']
  else if c = '\r' then ['\\', 'r']
  else if c = Char.ofNat 0 then ['\\', '0']
  else if showsCodePoint c then codePointEscape c
  else [c]

/-- A text between double quotes, its special characters escaped. -/
def quoted (s : String) : String :=
  String.ofList ('"' :: (s.toList.flatMap quotedChar ++ ['"']))

end CellExchange.Text
