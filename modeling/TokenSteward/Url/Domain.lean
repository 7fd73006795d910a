import TokenSteward.Text.Utf8
import TokenSteward.Text.Affix
import TokenSteward.Text.Composed
import TokenSteward.Text.Direction
import TokenSteward.Text.Joining
import TokenSteward.Url.Punycode
import TokenSteward.Url.Respelling

/-! # Domain names

A domain is brought to one spelling before it is compared or written: each character is respelled
and the whole is composed. Then it is cut into labels. A label beyond ASCII is written in punycode;
a label that is in punycode already has to stand for one in the common spelling. A domain with
letters that are written to the left must not be misread where directions meet.
-/

namespace TokenSteward.Url

open TokenSteward.Text

/-- The common spelling of a text, if a domain can have all of its characters. -/
def commonSpelling? (s : List Char) : Option (List Char) := do
  let points ← s.mapM fun c => respelled? c.toNat
  some ((composed points.flatten).map Char.ofNat)

/-- ASCII characters that no label has, besides the control characters. -/
def deniedSymbols : List Char :=
  [' ', '#', '%', '.', '/', ':', '<', '>', '?', '@', '[', '\\', ']', '^', '|', '\x7f']

/-- Whether a character in its common spelling may stand in a label. -/
def isLabelChar (c : Char) : Bool := 0x20 ≤ c.toNat && !deniedSymbols.contains c

/-- Whether every character of a text is an ASCII one. -/
def isAscii (s : List Char) : Bool := s.all (·.toNat < 128)

/-! ## Joiners -/

/-- Whether a joiner has a meaning between what stands before it, last character first, and what
stands behind it. -/
def isJoinerSound (joiner : Nat) (before behind : List Nat) : Bool :=
  match before with
  | [] => false
  | n :: _ => combiningClass n == 9 ||
    (joiner == 0x200C && meetsJoint joinsNext before && meetsJoint joinsPrevious behind)

/-- Whether every joiner behind a text, given last character first, has a meaning. -/
def areJoinersSound (before : List Nat) : List Nat → Bool
  | [] => true
  | n :: behind =>
    ((n != 0x200C && n != 0x200D) || isJoinerSound n before behind) &&
      areJoinersSound (n :: before) behind

/-! ## Directions -/

/-- Whether a character may stand in a label that is written to the left. -/
def fitsLeftward : Direction → Bool
  | .toRight => false
  | _ => true

/-- Whether a character may stand in a label that is written to the right. -/
def fitsRightward (d : Direction) : Bool := !d.isTurned

/-- Whether a label that is written to the left may end in such a character. -/
def endsLeftward (d : Direction) : Bool := d.isTurned || d == .europeanNumber

/-- Whether a label that is written to the right may end in such a character. -/
def endsRightward (d : Direction) : Bool := d == .toRight || d == .europeanNumber

/-- Whether a label cannot be misread in a domain with letters that are written to the left. It
starts with a letter, keeps to that letter's direction and ends, but for marks, in a letter or a
digit; leftwards, its digits are of one kind. -/
def keepsDirection (label : List Char) : Bool :=
  let all := label.map fun c => direction c.toNat
  let behind := (all.drop 1).reverse.dropWhile (· == .nonspacing)
  match all with
  | [] => true
  | .toRight :: _ => behind.all fitsRightward && (behind.take 1).all endsRightward
  | .toLeft :: _ | .arabicLetter :: _ =>
    behind.all fitsLeftward && (behind.take 1).all endsLeftward &&
      !(behind.contains .europeanNumber && behind.contains .arabicNumber)
  | _ => false

/-! ## Labels -/

/-- The longest label beyond ASCII. -/
def longestLabel : Nat := 1000

/-- The longest text in punycode. -/
def longestCode : Nat := 2000

/-- A label as it is shown and as it is written in ASCII. -/
structure Label where
  shown : List Char
  written : List Char
deriving DecidableEq, Repr

/-- Whether a label in its common spelling is one that can be written. -/
def isSoundLabel (s : List Char) : Bool :=
  s.all isLabelChar && !(s.take 1).any (isMark ·.toNat) && areJoinersSound [] (s.map Char.toNat) &&
    (isAscii s || s.length ≤ longestLabel)

namespace Label

/-- The beginning of a label in punycode. -/
def mark : List Char := ['x', 'n', '-', '-']

/-- The label in the common spelling that stands in punycode behind the mark. -/
def decoded? (code : List Char) : Option (List Char) := do
  if !isAscii code || code.getLast? == some '-' || longestCode < code.length then none
  else
    let shown ← Punycode.decode? code
    if !isAscii shown && commonSpelling? shown == some shown then some shown else none

/-- The label of a text in its common spelling. -/
def ofText? (s : List Char) : Option Label := do
  let label ← match after? mark s with
    | some code => (decoded? code).map fun shown => ⟨shown, s⟩
    | none => some ⟨s, if isAscii s then s else mark ++ Punycode.encode s⟩
  if isSoundLabel label.shown then some label else none

end Label

/-- Labels with full stops between them. -/
def joinLabels : List (List Char) → List Char
  | [] => []
  | [label] => label
  | label :: next :: rest => label ++ '.' :: joinLabels (next :: rest)

/-- The ASCII form of a domain given by its bytes. -/
def asciiDomain? (bytes : List UInt8) : Option (List Char) := do
  let s ← commonSpelling? (← (Utf8.decode bytes).mapM id)
  let labels ← (parted '.' s).mapM Label.ofText?
  let isTurned := labels.any fun label => label.shown.any (isTurning ·.toNat)
  if isTurned && !labels.all (keepsDirection ·.shown) then none
  else some (joinLabels (labels.map (·.written)))

end TokenSteward.Url
