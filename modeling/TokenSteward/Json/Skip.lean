import TokenSteward.Json.Token

/-! # Skipping a value

A value that nobody reads must be well formed and may be anything else: of any depth, with numbers
of any size and with lone surrogates. Open brackets are kept in a list, so that depth costs no
recursion; every step takes at least one symbol off the input.
-/

namespace TokenSteward.Json

/-- An open bracket. -/
inductive Bracket where
  | list
  | object
deriving DecidableEq, Repr

/-- What is missing when the input ends inside a bracket. -/
def Bracket.ended : Bracket → Cause
  | .list => .ended .list
  | .object => .ended .object

/-- What is missing between two parts of a bracket. -/
def Bracket.endExpected : Bracket → Cause
  | .list => .listEndExpected
  | .object => .objectEndExpected

/-- The symbol that closes a bracket. -/
def Bracket.closing : Bracket → Char
  | .list => ']'
  | .object => '\x7d'

/-- Skips a value that is neither an array nor an object, or reports the bracket that opens. -/
def skipFront : Symbols → Except Cause (Option Bracket × Symbols)
  | [] => .error (.ended .value)
  | some 'n' :: s => do .ok (none, ← readWord ['u', 'l', 'l'] s)
  | some 't' :: s => do .ok (none, ← readWord ['r', 'u', 'e'] s)
  | some 'f' :: s => do .ok (none, ← readWord ['a', 'l', 's', 'e'] s)
  | some '"' :: s => do .ok (none, ← skipString s)
  | some '[' :: s => .ok (some .list, s)
  | some '\x7b' :: s => .ok (some .object, s)
  | some '-' :: s => do .ok (none, ← skipUnsigned s)
  | some c :: s =>
    if Number.isDigit c then do .ok (none, ← skipUnsigned (some c :: s)) else .error .valueExpected
  | none :: _ => .error .valueExpected

/-- Closes brackets after a value, up to the place where another value has to follow: behind a
comma, or behind a bracket that has just been opened. -/
def closeBrackets : Bool → List Bracket → Symbols → Except Cause (List Bracket × Symbols)
  | _, [], s => .ok ([], s)
  | fresh, b :: outer, s =>
    match skipGap s with
    | [] => .error b.ended
    | x :: rest =>
      if x = some ',' ∧ !fresh then .ok (b :: outer, rest)
      else if x = some b.closing then closeBrackets false outer rest
      else if fresh then .ok (b :: outer, x :: rest)
      else .error b.endExpected

/-- Skips the key of an object's next field and the colon behind it. -/
def skipKey (s : Symbols) : Except Cause Symbols :=
  match skipGap s with
  | [] => .error (.ended .object)
  | some '"' :: s => do
    match skipGap (← skipString s) with
    | [] => .error (.ended .object)
    | some ':' :: s => .ok s
    | _ => .error .colonExpected
  | _ => .error .keyNotString

/-- Skips a value inside some open brackets, and then everything up to their closing. -/
def skipWithin : Nat → List Bracket → Symbols → Except Cause Symbols
  | 0, _, s => .ok s
  | fuel + 1, brackets, s => do
    let (opened, s) ← skipFront (skipGap s)
    let (brackets, s) ← match opened with
      | some b => closeBrackets true (b :: brackets) s
      | none => closeBrackets false brackets s
    match brackets with
    | [] => .ok s
    | .object :: _ => skipWithin fuel brackets (← skipKey s)
    | .list :: _ => skipWithin fuel brackets s

/-- Skips one value. -/
def skipValue (s : Symbols) : Except Cause Symbols := skipWithin (s.length + 1) [] s

end TokenSteward.Json
