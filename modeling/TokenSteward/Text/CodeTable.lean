import TokenSteward.Number.Digits
import TokenSteward.Text.Affix

/-! # Tables of code points

Properties of characters come in large tables. A table is written as lines of entries with blanks
between them, all numbers in hexadecimal digits. An entry of a set is a code point or two with `-`.
An entry of a map is a run `a-b>c`, whose members go to `c` and the code points behind it, a run
`a-b~`, of which every other member goes to the code point behind it, or `a:t,u,v`, which gives the
target of `a` and of each code point behind it; a target is one code point or several with `+`.
-/

namespace TokenSteward.Text

/-- The number that hexadecimal digits write. -/
def codePoint (s : List Char) : Nat := s.foldl (fun n c => n * 16 + (Number.hexDigit? c).getD 0) 0

/-- A set of code points, as the first and the last one of each range. -/
abbrev CodeRanges := List (Nat × Nat)

namespace CodeRanges

/-- The range that an entry writes. -/
def ofEntry (s : List Char) : Nat × Nat :=
  match parted '-' s with
  | first :: last :: _ => (codePoint first, codePoint last)
  | _ => (codePoint s, codePoint s)

/-- The set that lines of entries write. -/
def ofLines (lines : List String) : CodeRanges :=
  lines.flatMap fun line => (parted ' ' line.toList).map ofEntry

/-- Whether a code point is in a set. -/
def holds (ranges : CodeRanges) (n : Nat) : Bool :=
  ranges.any fun range => range.1 ≤ n && n ≤ range.2

end CodeRanges

/-- Where the code points of a run go. -/
inductive CodeRun where
  | shifted (first last target : Nat)
  | paired (first last : Nat)
  | listed (first : Nat) (targets : List (List Nat))
deriving DecidableEq, Repr

namespace CodeRun

/-- Where a code point goes, if it is in the run. -/
def target? (run : CodeRun) (n : Nat) : Option (List Nat) :=
  match run with
  | shifted first last target =>
    if first ≤ n ∧ n ≤ last then some [target + (n - first)] else none
  | paired first last =>
    if first ≤ n ∧ n ≤ last ∧ (n - first) % 2 = 0 then some [n + 1] else none
  | listed first targets => if first ≤ n then targets[n - first]? else none

/-- The run that an entry writes. -/
def ofEntry (s : List Char) : CodeRun :=
  match parted ':' s, parted '>' s with
  | [first, targets], _ =>
    listed (codePoint first) ((parted ',' targets).map fun t => (parted '+' t).map codePoint)
  | _, [range, target] =>
    let range := CodeRanges.ofEntry range
    shifted range.1 range.2 (codePoint target)
  | _, _ =>
    let range := CodeRanges.ofEntry s.dropLast
    paired range.1 range.2

end CodeRun

/-- A map from some code points to one or more. -/
abbrev CodeMap := List CodeRun

namespace CodeMap

/-- The map that lines of entries write. -/
def ofLines (lines : List String) : CodeMap :=
  lines.flatMap fun line => (parted ' ' line.toList).map CodeRun.ofEntry

/-- Where a code point goes, if the map says so. -/
def target? (m : CodeMap) (n : Nat) : Option (List Nat) := m.findSome? (·.target? n)

end CodeMap

end TokenSteward.Text
