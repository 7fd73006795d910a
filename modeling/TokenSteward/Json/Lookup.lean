import TokenSteward.Json.Reader

/-! # Looking into a value

Parts of a value that is known to be well formed. What is missing is null, and what has another form
is empty.
-/

namespace TokenSteward.Json.Value

/-- A field, null if it is missing. -/
def field (v : Value) (name : String) : Value := (v.field? name).getD .null

/-- A field that is there and not null. -/
def said? (v : Value) (name : String) : Option Value :=
  match v.field name with
  | .null => none
  | part => some part

/-- A text, if there is one. -/
def text? : Value → Option String
  | .string s => some s
  | _ => none

/-- A text, empty if there is none. -/
def textOf (v : Value) : String := v.text?.getD ""

/-- A whole number, zero if there is none. -/
def intOf : Value → Int
  | .number (.whole n) => n
  | _ => 0

/-- A natural number, if there is one. -/
def nat? : Value → Option Nat
  | .number (.whole n) => some n.toNat
  | _ => none

/-- A natural number, zero if there is none. -/
def natOf (v : Value) : Nat := v.nat?.getD 0

/-- The items of a list. -/
def items : Value → List Value
  | .array items => items
  | _ => []

/-- The fields of an object. -/
def fields : Value → List (String × Value)
  | .object fields => fields
  | _ => []

/-- The item of a list, null if it is missing. -/
def item (v : Value) (index : Nat) : Value := v.items.getD index .null

/-- A field's text. -/
def textAt (v : Value) (name : String) : String := (v.field name).textOf

/-- A field's items. -/
def itemsAt (v : Value) (name : String) : List Value := (v.field name).items

/-- A field's texts. -/
def textsAt (v : Value) (name : String) : List String := (v.itemsAt name).map textOf

/-- A text or null. -/
def ofText? (s : Option String) : Value := (s.map Value.string).getD .null

/-- The value of a written form, or another one if it cannot be read. -/
def readAs {α : Type} (v : Value) (r : Reader α) (otherwise : α) : α :=
  (r.ofValue? v).getD otherwise

end TokenSteward.Json.Value
