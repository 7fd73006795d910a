import TokenSteward.Text.CombiningClass
import TokenSteward.Text.Decomposition

/-! # The composed form of a text

Texts that look the same have one composed form: every character is taken apart, the marks behind
each one are put into the order of their classes, and then marks and letters are joined with the
character before them wherever one character is the same as both.
-/

namespace TokenSteward.Text

/-- What a code point falls into, with at most so many steps on the way to each part. -/
def takenApart : Nat → Nat → List Nat
  | 0, n => [n]
  | steps + 1, n =>
    if n < 0xC0 then [n]
    else if isSyllable n then syllableLetters n
    else match decompositions.target? n with
      | some parts => parts.flatMap (takenApart steps)
      | none => [n]

/-- Puts a mark behind the marks of its class and of lower ones, in a text whose marks are in
order. -/
def putMark (n combining : Nat) : List Nat → List Nat
  | [] => [n]
  | m :: rest =>
    if combiningClass m ≠ 0 ∧ combiningClass m < combining then m :: putMark n combining rest
    else n :: m :: rest

/-- A text with the marks behind each character in the order of their classes. -/
def ordered : List Nat → List Nat
  | [] => []
  | n :: rest =>
    let combining := combiningClass n
    if combining = 0 then n :: ordered rest else putMark n combining (ordered rest)

/-- The pairs that one code point is the same as, with that code point. -/
def compositions : List ((Nat × Nat) × Nat) :=
  decompositions.flatMap fun
    | .listed first targets => (targets.zipIdx first).filterMap fun
      | ([a, b], whole) => if uncomposed.holds whole then none else some ((a, b), whole)
      | _ => none
    | _ => []

/-- The code point that is the same as two others. -/
def whole? (a b : Nat) : Option Nat :=
  if b < 0x300 then none
  else (syllable? a b).or (compositions.lookup (a, b))

/-- Joins what follows a character with it, as far as nothing stands between them; `kept` are the
marks that were not joined, the last of them of the class `highest`. -/
def joinedFrom (base : Nat) (kept : List Nat) (highest : Nat) : List Nat → List Nat
  | [] => base :: kept
  | n :: rest =>
    let combining := combiningClass n
    let isNear := kept.isEmpty || highest < combining
    match if isNear then whole? base n else none with
    | some whole => joinedFrom whole kept highest rest
    | none =>
      if combining = 0 then base :: kept ++ joinedFrom n [] 0 rest
      else joinedFrom base (kept ++ [n]) combining rest

/-- The composed form of a sequence of code points. -/
def composed (s : List Nat) : List Nat :=
  match ordered (s.flatMap (takenApart 4)) with
  | [] => []
  | n :: rest => joinedFrom n [] 0 rest

end TokenSteward.Text
