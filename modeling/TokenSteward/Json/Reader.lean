import TokenSteward.Json.Skip

/-! # Reading typed values

A reader takes a value of its type off the front of the input, or reports the first fault in the
order of the text: a value of the wrong kind is reported where it begins, whatever follows it.
Readers of records, lists, maps and choices are put together from readers of their parts.
-/

namespace TokenSteward.Json

/-- Reads a value of a type off the front of an input. -/
abbrev Reader (α : Type) := Symbols → Except Fault (α × Symbols)

/-- A cause found at the value itself. -/
def here {α : Type} (cause : Cause) : Except Fault α := .error ⟨[], cause⟩

/-- A result whose cause of failure, if any, was found at the value itself. -/
def atValue {α : Type} : Except Cause α → Except Fault α
  | .ok a => .ok a
  | .error cause => here cause

/-- A result whose fault, if any, was found inside a part. -/
def inside {α : Type} (step : Step) : Except Fault α → Except Fault α
  | .ok a => .ok a
  | .error fault => .error ⟨step :: fault.path, fault.cause⟩

/-- The fault of a value that is not of the wanted kind. A broken value is reported as broken. -/
def unwanted {α : Type} (wanted : String) (s : Symbols) : Except Fault α :=
  match s with
  | [] => here (.ended .value)
  | some 'n' :: s => do
    let _ ← atValue (readWord ['u', 'l', 'l'] s)
    here (.wrongType .null wanted)
  | some 't' :: s => do
    let _ ← atValue (readWord ['r', 'u', 'e'] s)
    here (.wrongType (.bool true) wanted)
  | some 'f' :: s => do
    let _ ← atValue (readWord ['a', 'l', 's', 'e'] s)
    here (.wrongType (.bool false) wanted)
  | some '"' :: s => do
    let (text, _) ← atValue (readString s)
    here (.wrongType (.string text) wanted)
  | some '[' :: _ => here (.wrongType .sequence wanted)
  | some '\x7b' :: _ => here (.wrongType .map wanted)
  | some c :: s =>
    if c = '-' ∨ Number.isDigit c then do
      let (n, _) ← atValue (readNumber (some c :: s))
      here (.wrongType (.number n) wanted)
    else here .valueExpected
  | none :: _ => here .valueExpected

namespace Reader

/-- The reader that passes its value through a function. -/
def map {α β : Type} (f : α → β) (r : Reader α) : Reader β := fun s => do
  let (a, rest) ← r s
  .ok (f a, rest)

/-- The reader that refuses some values with a message of their own. -/
def refine {α β : Type} (f : α → Except String β) (r : Reader α) : Reader β := fun s => do
  let (a, rest) ← r s
  match f a with
  | .ok b => .ok (b, rest)
  | .error message => here (.refused message)

/-- A text, called `wanted` where another value stands. -/
def text (wanted : String) : Reader String := fun s =>
  match skipGap s with
  | some '"' :: s => atValue (readString s)
  | s => unwanted wanted s

/-- A text. -/
def string : Reader String := text "a string"

/-- A whole number between two bounds. -/
def whole (wanted : String) (least greatest : Int) : Reader Int := fun s =>
  match skipGap s with
  | some c :: s =>
    if c = '-' ∨ Number.isDigit c then do
      let (n, rest) ← atValue (readNumber (some c :: s))
      match n with
      | .whole n =>
        if least ≤ n ∧ n ≤ greatest then .ok (n, rest) else here (.wrongValue n wanted)
      | n => here (.wrongType (.number n) wanted)
    else unwanted wanted (some c :: s)
  | s => unwanted wanted s

/-- A number of eight bits. -/
def word8 : Reader UInt8 := (whole "u8" 0 255).map fun n => UInt8.ofNat n.toNat

/-- A number of sixteen bits. -/
def word16 : Reader UInt16 := (whole "u16" 0 65535).map fun n => UInt16.ofNat n.toNat

/-- A number of sixty-four bits, called `wanted`. -/
def word (wanted : String) : Reader UInt64 :=
  (whole wanted 0 maxWord).map fun n => UInt64.ofNat n.toNat

/-- A number of sixty-four bits. -/
def word64 : Reader UInt64 := word "u64"

/-- A signed number of sixty-four bits. -/
def signed64 : Reader Int64 :=
  (whole "i64" Int64.minValue.toInt Int64.maxValue.toInt).map Int64.ofInt

/-- The word for nothing. -/
def unit : Reader Unit := fun s =>
  match skipGap s with
  | some 'n' :: s => do
    let rest ← atValue (readWord ['u', 'l', 'l'] s)
    .ok ((), rest)
  | s => unwanted "unit" s

/-- A value, or the word for nothing. -/
def option {α : Type} (r : Reader α) : Reader (Option α) := fun s =>
  match skipGap s with
  | some 'n' :: s => do
    let rest ← atValue (readWord ['u', 'l', 'l'] s)
    .ok (none, rest)
  | s => (r.map some) s

/-! ## Sequences -/

/-- Whether another item follows in a sequence, and the input from it on. -/
def nextItem (first : Bool) (s : Symbols) : Except Cause (Bool × Symbols) :=
  match skipGap s with
  | [] => .error (.ended .list)
  | some ']' :: s => .ok (false, some ']' :: s)
  | x :: s =>
    if first then .ok (true, x :: s)
    else if x = some ',' then
      match skipGap s with
      | [] => .error (.ended .value)
      | some ']' :: _ => .error .trailingComma
      | s => .ok (true, s)
    else .error .listEndExpected

/-- The end of a sequence of which all items have been read. -/
def endItems (s : Symbols) : Except Cause Symbols :=
  match skipGap s with
  | [] => .error (.ended .list)
  | some ']' :: s => .ok s
  | some ',' :: s => .error (if (skipGap s).head? = some (some ']') then .trailingComma
      else .trailingCharacters)
  | _ => .error .trailingCharacters

/-- The items of a sequence from an index on. -/
def items {α : Type} (r : Reader α) : Nat → Nat → Symbols → Except Fault (List α × Symbols)
  | 0, _, s => .ok ([], s)
  | fuel + 1, index, s => do
    let (more, s) ← atValue (nextItem (index == 0) s)
    if more then
      let (a, s) ← inside (.item index) (r s)
      let (rest, s) ← items r fuel (index + 1) s
      .ok (a :: rest, s)
    else .ok ([], s)

/-- A list of values. -/
def list {α : Type} (r : Reader α) : Reader (List α) := fun s =>
  match skipGap s with
  | some '[' :: s => do
    let (all, s) ← items r (s.length + 1) 0 s
    let rest ← atValue (endItems s)
    .ok (all, rest)
  | s => unwanted "a sequence" s

/-! ## Objects -/

/-- Whether another field follows in an object, and the input behind the quote of its key. -/
def nextKey (first : Bool) (s : Symbols) : Except Cause (Option Symbols × Symbols) :=
  match skipGap s with
  | [] => .error (.ended .object)
  | some '\x7d' :: s => .ok (none, s)
  | x :: s =>
    if first then
      if x = some '"' then .ok (some s, s) else .error .keyNotString
    else if x = some ',' then
      match skipGap s with
      | [] => .error (.ended .value)
      | some '"' :: s => .ok (some s, s)
      | some '\x7d' :: _ => .error .trailingComma
      | _ => .error .keyNotString
    else .error .objectEndExpected

/-- The input behind the colon after a key. -/
def behindColon (s : Symbols) : Except Cause Symbols :=
  match skipGap s with
  | [] => .error (.ended .object)
  | some ':' :: s => .ok s
  | _ => .error .colonExpected

/-- The fields of an object, each read into a state by its key. -/
def fields {σ : Type} (read : String → σ → Symbols → Except Fault (σ × Symbols)) :
    Nat → Bool → σ → Symbols → Except Fault (σ × Symbols)
  | 0, _, state, s => .ok (state, s)
  | fuel + 1, first, state, s => do
    let (key?, rest) ← inside .unknown (atValue (nextKey first s))
    match key? with
    | none => .ok (state, rest)
    | some s =>
      let (key, s) ← inside .unknown (atValue (readString s))
      let (state, s) ← read key state s
      fields read fuel false state s

/-- A map from texts to texts; of equal keys the last one counts. Pairs keep the order of the
text. -/
def pairs {α : Type} (r : Reader α) : Reader (List (String × α)) := fun s =>
  match skipGap s with
  | some '\x7b' :: s => do
    let (all, s) ← fields (fun key found s => do
      let s ← atValue (behindColon s)
      let (a, s) ← inside (.field key) (r s)
      .ok ((key, a) :: found, s)) (s.length + 1) true [] s
    .ok (all.reverse, s)
  | s => unwanted "a map" s

/-- One field of a record: its name, whether it may be left out, and how its value changes the
record under construction. -/
structure Field (α : Type) where
  name : String
  required : Bool
  read : Reader (α → α)

/-- A field that may be left out. -/
def optional {α β : Type} (name : String) (r : Reader β) (set : β → α → α) : Field α :=
  ⟨name, false, r.map set⟩

/-- A field that has to be there. -/
def required {α β : Type} (name : String) (r : Reader β) (set : β → α → α) : Field α :=
  ⟨name, true, r.map set⟩

/-- How many parts a record has, in words. -/
def partsText (label : String) (count : Nat) : String :=
  label ++ " with " ++ Number.natText count ++ if count = 1 then " element" else " elements"

/-- A record written as the sequence of its fields from an index on. -/
def record.sequence {α : Type} (label : String) (count : Nat) :
    List (Field α) → Nat → α → Symbols → Except Fault (α × Symbols)
  | [], _, a, s => .ok (a, s)
  | f :: rest, index, a, s => do
    let (more, s) ← atValue (nextItem (index == 0) s)
    if more then
      let (set, s) ← inside (.item index) (f.read s)
      record.sequence label count rest (index + 1) (set a) s
    else
      -- A missing tail is made of defaults, up to the first field that has none.
      match (f :: rest).findIdx? (·.required) with
      | some ahead => here (.wrongLength (index + ahead) (partsText label count))
      | none => .ok (a, s)

/-- Reads one named field into a record under construction. -/
def record.field {α : Type} (fields : List (Field α)) (key : String) (state : α × List String)
    (s : Symbols) : Except Fault ((α × List String) × Symbols) :=
  match fields.find? (·.name == key) with
  | some f =>
    if state.2.contains key then here (.duplicateField key)
    else do
      let s ← atValue (behindColon s)
      let (set, s) ← inside (.field key) (f.read s)
      .ok ((set state.1, key :: state.2), s)
  | none => do
    let s ← atValue (behindColon s)
    let s ← inside (.field key) (atValue (skipValue s))
    .ok (state, s)

/-- A record: an object of named fields in any order, of which unknown ones are skipped, or the
sequence of its fields. Fields that are left out keep the values of `blank`. -/
def record {α : Type} (label : String) (blank : α) (fields : List (Field α)) : Reader α := fun s =>
  match skipGap s with
  | some '[' :: s => do
    let (a, s) ← record.sequence label fields.length fields 0 blank s
    let rest ← atValue (endItems s)
    .ok (a, rest)
  | some '\x7b' :: s => do
    let (state, rest) ← Reader.fields (record.field fields) (s.length + 1) true (blank, []) s
    match fields.find? fun f => f.required && !state.2.contains f.name with
    | some f => here (.missingField f.name)
    | none => .ok (state.1, rest)
  | s => unwanted label s

/-! ## Choices -/

/-- The name of a choice behind the opening quote. -/
def choiceName (known : List String) (s : Symbols) : Except Fault (String × Symbols) := do
  let (name, s) ← atValue (readString s)
  if known.contains name then .ok (name, s) else here (.unknownVariant name known)

/-- The name of a choice that has to stand as a key. An object without keys names no choice. -/
def choiceKey (known : List String) (s : Symbols) : Except Fault (String × Symbols) := do
  let (key?, _) ← atValue (nextKey true s)
  match key? with
  | some s => choiceName known s
  | none => here .valueExpected

/-- One case of a choice with contents: a plain name, or a name with a value. -/
inductive Case (α : Type) where
  | plain (a : α)
  | filled (r : Reader α)

/-- A choice: its plain name, or an object whose only key is the name. -/
def choice {α : Type} (cases : List (String × Case α)) : Reader α := fun s =>
  let known := cases.map (·.1)
  match skipGap s with
  | [] => here (.ended .value)
  | some '"' :: s => do
    let (name, rest) ← choiceName known s
    match cases.find? (·.1 == name) with
    | some (_, .plain a) => .ok (a, rest)
    | _ => here (.wrongType .plainVariant "struct variant")
  | some '\x7b' :: s => do
    let (name, s) ← choiceKey known s
    let s ← atValue (behindColon s)
    let (a, s) ← inside (.field name) <| match cases.find? (·.1 == name) with
      | some (_, .plain a) => (unit.map fun _ => a) s
      | some (_, .filled r) => r s
      | none => here (.unknownVariant name known)
    match skipGap s with
    | [] => here (.ended .object)
    | some '\x7d' :: rest => .ok (a, rest)
    | _ => here .valueExpected
  | _ => here .valueExpected

/-- A choice among plain names. -/
def names {α : Type} (cases : List (String × α)) : Reader α :=
  choice (cases.map fun c => (c.1, .plain c.2))

/-! ## Whole texts -/

/-- Reads the value at the front of an input; what follows it is not looked at. -/
def front {α : Type} (r : Reader α) (s : Symbols) : Except Fault α := do
  let (a, _) ← r s
  .ok a

/-- Reads an input that holds one value and nothing else but blanks. -/
def entire {α : Type} (r : Reader α) (s : Symbols) : Except Fault α := do
  let (a, rest) ← r s
  if (skipGap rest).isEmpty then .ok a else here .trailingCharacters

/-- Reads a value from its written form. -/
def ofValue? {α : Type} (r : Reader α) (v : Value) : Option α :=
  (r.entire (v.text.map some)).toOption

end Reader

end TokenSteward.Json
