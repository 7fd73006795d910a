import TokenSteward.Text.Printable

/-! # Quoted text

A text in double quotes on one line: the quote, the backslash and the common control characters
have short escapes, every other character that is not shown as it is stands by its code point.
-/

namespace TokenSteward.Text

/-- The lower-case hexadecimal digits of a number, without leading zeros. -/
def hexText (n : Nat) : List Char := Nat.toDigits 16 n

/-- How one character stands inside the quotes. -/
def quotedChar (c : Char) : List Char :=
  if c = '"' then ['\\', '"']
  else if c = '\\' then ['\\', '\\']
  else if c = '\n' then ['\\', 'n']
  else if c = '\r' then ['\\', 'r']
  else if c = '\t' then ['\\', 't']
  else if c = '\x00' then ['\\', '0']
  else if isShown c then [c]
  else ['\\', 'u', '\x7b'] ++ hexText c.toNat ++ ['\x7d']

/-- A text in quotes. -/
def quoted (s : String) : String := String.ofList ('"' :: s.toList.flatMap quotedChar ++ ['"'])

/-- Texts in quotes, as a list. -/
def quotedList (items : List String) : String :=
  "[" ++ joinedItems (items.map quoted) ++ "]"
where
  /-- Items with a comma between two of them. -/
  joinedItems : List String → String
    | [] => ""
    | [s] => s
    | s :: t :: rest => s ++ ", " ++ joinedItems (t :: rest)

end TokenSteward.Text
