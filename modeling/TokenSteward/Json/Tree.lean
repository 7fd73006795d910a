import TokenSteward.Json.Reader

/-! # Reading any value

A value is read as it stands, lists and objects to a bounded depth. Of the fields of one name an
object keeps the last. The sorted form of a value has the fields of each object in the order of
their names.
-/

namespace TokenSteward.Json

/-- How deep lists and objects may be nested. -/
def greatestDepth : Nat := 127

/-- The fields of an object in the order of their names, each once. -/
def sortedFields (fields : List (String × Value)) : List (String × Value) :=
  let last := fields.reverse.foldl (fun (found : List (String × Value)) f =>
    if found.any (·.1 == f.1) then found else f :: found) []
  last.mergeSort fun a b => decide (a.1 ≤ b.1)

namespace Reader

/-- Reads any value that is nested to a depth at most. -/
def nested : Nat → Reader Value
  | 0 => fun _ => here .valueExpected
  | depth + 1 => fun s =>
    match skipGap s with
    | some '[' :: _ => (Reader.list (nested depth)).map Value.array s
    | some '\x7b' :: _ => (Reader.pairs (nested depth)).map (fun f => .object (sortedFields f)) s
    | some '"' :: _ => Reader.string.map Value.string s
    | some 'n' :: _ => Reader.unit.map (fun _ => Value.null) s
    | some 't' :: rest => do
      let rest ← atValue (readWord ['r', 'u', 'e'] rest)
      .ok (.bool true, rest)
    | some 'f' :: rest => do
      let rest ← atValue (readWord ['a', 'l', 's', 'e'] rest)
      .ok (.bool false, rest)
    | some c :: rest =>
      if c = '-' ∨ Number.isDigit c then do
        let (n, rest) ← atValue (readNumber (some c :: rest))
        .ok (.number n, rest)
      else here .valueExpected
    | none :: _ => here .valueExpected
    | [] => here (.ended .value)

/-- Reads any value. -/
def tree : Reader Value := nested greatestDepth

end Reader

end TokenSteward.Json
