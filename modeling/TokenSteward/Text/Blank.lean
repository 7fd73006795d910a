import TokenSteward.Text.Affix

/-! # White space

The characters with the Unicode property White_Space, which may surround a key text. The byte
order mark U+FEFF is not one of them.
-/

namespace TokenSteward.Text

/-- The characters of the property White_Space. -/
def blanks : List Nat :=
  [0x09, 0x0A, 0x0B, 0x0C, 0x0D, 0x20, 0x85, 0xA0, 0x1680, 0x2000, 0x2001, 0x2002, 0x2003,
    0x2004, 0x2005, 0x2006, 0x2007, 0x2008, 0x2009, 0x200A, 0x2028, 0x2029, 0x202F, 0x205F,
    0x3000]

/-- Whether a character is white space. -/
def isBlank (c : Char) : Bool := blanks.contains c.toNat

/-- A text without the white space around it. -/
def trimmed (s : List Char) : List Char := trimBoth isBlank s

end TokenSteward.Text
