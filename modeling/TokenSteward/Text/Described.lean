import TokenSteward.Text.Affix
import TokenSteward.Text.Quoted
import TokenSteward.Number.Digits

/-! # Values described for a log

A record is described by its name and its fields, `Name { field: value }`. A part that must not be
seen is replaced, and a record that does not show all of its parts ends in two points.
-/

namespace TokenSteward.Text

/-- What stands in the place of a secret. -/
def redacted : String := "<redacted>"

/-- A record with all of its fields, which are described already. -/
def recordText (name : String) (fields : List (String × String)) : String :=
  name ++ " \x7b " ++ joined ", " (fields.map fun f => f.1 ++ ": " ++ f.2) ++ " \x7d"

/-- A record that does not show all of its fields. -/
def partialRecordText (name : String) (fields : List (String × String)) : String :=
  name ++ " \x7b " ++ joined ", " (fields.map (fun f => f.1 ++ ": " ++ f.2) ++ [".."]) ++ " \x7d"

/-- A value that may be missing. -/
def optionText : Option String → String
  | none => "None"
  | some text => "Some(" ++ text ++ ")"

/-- A truth value. -/
def boolText (b : Bool) : String := if b then "true" else "false"

/-- A list of described values. -/
def listText (items : List String) : String := "[" ++ joined ", " items ++ "]"

end TokenSteward.Text
