import TokenSteward.Number.Shortest

/-! # Data values and their compact text

A value keeps the order of an object's fields, and writing keeps it too: no blanks, short escapes
where there are some, and characters outside the control range as they are.
-/

namespace TokenSteward.Json

open TokenSteward.Number

/-- A number as a text can hold it: whole, or a double with its sign. -/
inductive Numeral where
  | whole (n : Int)
  | double (negative : Bool) (size : Binary64)
deriving DecidableEq, Repr

/-- A data value. -/
inductive Value where
  | null
  | bool (b : Bool)
  | number (n : Numeral)
  | string (s : String)
  | array (items : List Value)
  | object (fields : List (String × Value))
deriving Repr

/-- A whole number as a value. -/
def Value.nat (n : Nat) : Value := .number (.whole n)

/-- Texts as a value. -/
def Value.strings (items : List String) : Value := .array (items.map .string)

/-- The last two hexadecimal digits of a control character. -/
def controlDigits (n : Nat) : List Char :=
  [if n < 16 then '0' else '1', "0123456789abcdef".toList.getD (n % 16) '0']

/-- How one character stands inside a written string. -/
def escaped (c : Char) : List Char :=
  if c = '"' then ['\\', '"']
  else if c = '\\' then ['\\', '\\']
  else if c = '\x08' then ['\\', 'b']
  else if c = '\x0c' then ['\\', 'f']
  else if c = '\n' then ['\\', 'n']
  else if c = '\r' then ['\\', 'r']
  else if c = '\t' then ['\\', 't']
  else if c.toNat < 0x20 then ['\\', 'u', '0', '0'] ++ controlDigits c.toNat
  else [c]

/-- A written string. -/
def stringText (s : String) : List Char := '"' :: s.toList.flatMap escaped ++ ['"']

/-- The text of a number. -/
def Numeral.text : Numeral → String
  | .whole n => intText n
  | .double negative size => size.text negative

mutual

/-- The compact text of a value. -/
def Value.text : Value → List Char
  | .null => "null".toList
  | .bool true => "true".toList
  | .bool false => "false".toList
  | .number n => n.text.toList
  | .string s => stringText s
  | .array items => '[' :: Value.itemsText items ++ [']']
  | .object fields => '\x7b' :: Value.fieldsText fields ++ ['\x7d']

/-- The items of an array with a comma between two of them. -/
def Value.itemsText : List Value → List Char
  | [] => []
  | [v] => v.text
  | v :: w :: rest => v.text ++ ',' :: Value.itemsText (w :: rest)

/-- The fields of an object with a comma between two of them. -/
def Value.fieldsText : List (String × Value) → List Char
  | [] => []
  | [(k, v)] => stringText k ++ ':' :: v.text
  | (k, v) :: f :: rest => stringText k ++ ':' :: v.text ++ ',' :: Value.fieldsText (f :: rest)

end

/-- The compact text of a value, as a string. -/
def Value.render (v : Value) : String := String.ofList v.text

/-- The value of a field, the last one of that name. -/
def Value.field? (v : Value) (name : String) : Option Value :=
  match v with
  | .object fields => (fields.reverse.find? (·.1 == name)).map (·.2)
  | _ => none

/-- An object's fields with one of them set: in its place if it is there, else at the end. -/
def setField (name : String) (v : Value) : List (String × Value) → List (String × Value)
  | [] => [(name, v)]
  | (k, w) :: rest => if k = name then (k, v) :: rest else (k, w) :: setField name v rest

mutual

/-- A value with another laid over it: objects field by field, anything else replaces. -/
def Value.merge (under : Value) : Value → Value
  | .object top =>
    match under with
    | .object fields => .object (Value.mergeFields fields top)
    | _ => .object top
  | top => top

/-- The fields of an object with other fields laid over them. -/
def Value.mergeFields (under : List (String × Value)) :
    List (String × Value) → List (String × Value)
  | [] => under
  | (k, top) :: rest =>
    let merged := match under.find? (·.1 == k) with
      | some (_, v) => v.merge top
      | none => top
    Value.mergeFields (setField k merged under) rest

end

end TokenSteward.Json
