import TokenSteward.Text.Assigned
import TokenSteward.Text.Mark

/-! # Characters that a quoted text shows as they are

Control and format characters, fillers and separators other than the space have no picture, nor has
a code point without a character; marks that extend the character before them would change its
picture. All of them are written by code point.
-/

namespace TokenSteward.Text

/-- The characters without a picture, but for those that extend another one. -/
def pictureless : CodeRanges := CodeRanges.ofLines [
    "0-1f 7f-a0 ad 600-605 61c 6dd 70f 890-891 8e2 115f-1160 1680 180e 2000-200b 200d-200f",
    "2028-202f 205f-2064 2066-206f 3000 3164 feff ffa0 fff9-fffb 110bd 110cd 13430-1343f",
    "1bca0-1bca3 1d173-1d17a e0001"]

/-- Whether a quoted text shows the character itself. -/
def isShown (c : Char) : Bool :=
  let n := c.toNat
  (0x20 ≤ n && n < 0x7F) ||
    (!pictureless.holds n && !isExtending n && isAssigned n)

end TokenSteward.Text
