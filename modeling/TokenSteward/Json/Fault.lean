import TokenSteward.Json.Value
import TokenSteward.Text.Quoted
import TokenSteward.Text.Affix

/-! # What can be wrong with a data text

A fault names its cause and the place it was found at, as a path from the value that was to be
read. The wording of each cause is given once, here.
-/

namespace TokenSteward.Json

open TokenSteward.Number TokenSteward.Text

/-- What a text ended inside of. -/
inductive Inside where
  | value
  | list
  | object
  | string
deriving DecidableEq, Repr

/-- The kind of value that stands where another one is wanted. -/
inductive Found where
  | null
  | bool (b : Bool)
  | number (n : Numeral)
  | string (s : String)
  | sequence
  | map
  | plainVariant
deriving DecidableEq, Repr

/-- What is wrong. -/
inductive Cause where
  | ended (inside : Inside)
  | colonExpected
  | listEndExpected
  | objectEndExpected
  | wordExpected
  | valueExpected
  | badEscape
  | badNumber
  | numberTooLarge
  | badCharacter
  | controlCharacter
  | keyNotString
  | loneSurrogate
  | shortHexEscape
  | trailingComma
  | trailingCharacters
  | wrongType (found : Found) (wanted : String)
  | wrongValue (n : Int) (wanted : String)
  | wrongLength (length : Nat) (wanted : String)
  | missingField (name : String)
  | duplicateField (name : String)
  | unknownVariant (name : String) (known : List String)
  | refused (message : String)
deriving DecidableEq, Repr

/-- How a found value is called. -/
def Found.text : Found → String
  | .null => "null"
  | .bool true => "boolean \x60true\x60"
  | .bool false => "boolean \x60false\x60"
  | .number (.whole n) => "integer \x60" ++ intText n ++ "\x60"
  | .number (.double negative size) => "floating point \x60" ++ size.text negative ++ "\x60"
  | .string s => "string " ++ quoted s
  | .sequence => "sequence"
  | .map => "map"
  | .plainVariant => "unit variant"

/-- A name between grave accents. -/
def marked (name : String) : String := "\x60" ++ name ++ "\x60"

/-- The known names of a choice. -/
def choiceText : List String → String
  | [] => "there are no variants"
  | [a] => "expected " ++ marked a
  | [a, b] => "expected " ++ marked a ++ " or " ++ marked b
  | names => "expected one of " ++ joined ", " (names.map marked)

/-- The wording of a cause. -/
def Cause.message : Cause → String
  | .ended .value => "EOF while parsing a value"
  | .ended .list => "EOF while parsing a list"
  | .ended .object => "EOF while parsing an object"
  | .ended .string => "EOF while parsing a string"
  | .colonExpected => "expected \x60:\x60"
  | .listEndExpected => "expected \x60,\x60 or \x60]\x60"
  | .objectEndExpected => "expected \x60,\x60 or \x60\x7d\x60"
  | .wordExpected => "expected ident"
  | .valueExpected => "expected value"
  | .badEscape => "invalid escape"
  | .badNumber => "invalid number"
  | .numberTooLarge => "number out of range"
  | .badCharacter => "invalid unicode code point"
  | .controlCharacter => "control character (\\u0000-\\u001F) found while parsing a string"
  | .keyNotString => "key must be a string"
  | .loneSurrogate => "lone leading surrogate in hex escape"
  | .shortHexEscape => "unexpected end of hex escape"
  | .trailingComma => "trailing comma"
  | .trailingCharacters => "trailing characters"
  | .wrongType found wanted => "invalid type: " ++ found.text ++ ", expected " ++ wanted
  | .wrongValue n wanted =>
    "invalid value: integer \x60" ++ intText n ++ "\x60, expected " ++ wanted
  | .wrongLength length wanted => "invalid length " ++ natText length ++ ", expected " ++ wanted
  | .missingField name => "missing field " ++ marked name
  | .duplicateField name => "duplicate field " ++ marked name
  | .unknownVariant name known => "unknown variant " ++ marked name ++ ", " ++ choiceText known
  | .refused message => message

/-- One step from a value to a part of it. -/
inductive Step where
  | field (name : String)
  | item (index : Nat)
  | unknown
deriving DecidableEq, Repr

/-- A cause and the place it was found at. -/
structure Fault where
  path : List Step
  cause : Cause
deriving DecidableEq, Repr

/-- The wording of a fault's cause. -/
def Fault.message (f : Fault) : String := f.cause.message

/-- The text of a path behind its first step. -/
def pathRest : List Step → String
  | [] => ""
  | .field name :: rest => "." ++ name ++ pathRest rest
  | .item index :: rest => "[" ++ natText index ++ "]" ++ pathRest rest
  | .unknown :: rest => ".?" ++ pathRest rest

/-- The text of a path: a point for the value itself. -/
def pathText : List Step → String
  | [] => "."
  | .field name :: rest => name ++ pathRest rest
  | .item index :: rest => "[" ++ natText index ++ "]" ++ pathRest rest
  | .unknown :: rest => "?" ++ pathRest rest

/-- The text of the place a fault was found at. -/
def Fault.place (f : Fault) : String := pathText f.path

end TokenSteward.Json
