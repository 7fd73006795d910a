import TokenSteward.Json.Reader

/-! # Types of service providers

A provider type is a short name of lower-case letters, digits and hyphens, so it stands in a URL
as it is.
-/

namespace TokenSteward.Provider

open TokenSteward.Json

/-- The greatest length of a provider type in bytes (`IDENTIFIER_MAX_LEN`). -/
def greatestLength : Nat := 63

/-- Why a text is not the name of a provider type (`IdentifierError`). -/
inductive IdentifierFault where
  | empty
  | invalidCharacter (value : String)
  | tooLong
deriving DecidableEq, Repr

namespace IdentifierFault

/-- The wording of a fault. -/
def message : IdentifierFault → String
  | .empty => "Service provider type cannot be empty."
  | .invalidCharacter value => "Service provider type " ++ marked value
      ++ " must only contain lowercase letters, digits and \x60-\x60."
  | .tooLong => "Service provider type exceeds " ++ Number.natText greatestLength ++ " characters."

/-- The written form of a fault. -/
def toValue : IdentifierFault → Value
  | .empty => .string "Empty"
  | .invalidCharacter value =>
    .object [("InvalidCharacter", .object [("value", .string value)])]
  | .tooLong => .object [("TooLong", .object [("max", .nat greatestLength)])]

end IdentifierFault

/-- Whether a character may stand in the name of a provider type. -/
def isTypeCharacter (c : Char) : Bool :=
  ('a' ≤ c && c ≤ 'z') || ('0' ≤ c && c ≤ '9') || c == '-'

/-- The first fault of a name, if it has one. -/
def identifierFault? (name : String) : Option IdentifierFault :=
  if name.isEmpty then some .empty
  else if !name.toList.all isTypeCharacter then some (.invalidCharacter name)
  else if greatestLength < name.utf8ByteSize then some .tooLong
  else none

/-- The type of a service provider (`ServiceProviderType`). -/
structure ProviderType where
  name : String
  sound : identifierFault? name = none
deriving DecidableEq

namespace ProviderType

/-- The provider type of a name. -/
def ofName (name : String) : Except IdentifierFault ProviderType :=
  match found : identifierFault? name with
  | none => .ok ⟨name, found⟩
  | some fault => .error fault

/-- A provider type's name has only the characters that stand in a URL as they are. -/
theorem all_isTypeCharacter (t : ProviderType) : t.name.toList.all isTypeCharacter = true := by
  have sound := t.sound
  simp only [identifierFault?] at sound
  split at sound
  · cases sound
  · split at sound
    · cases sound
    · next fine => simpa using fine

/-- A provider type with a name of no particular meaning. -/
instance : Inhabited ProviderType := ⟨⟨"x", by decide +kernel⟩⟩

/-- What a log shows of a provider type. -/
def describe (t : ProviderType) : String := "ServiceProviderType(" ++ t.name ++ ")"

/-- The written form of a provider type. -/
def toValue (t : ProviderType) : Value := .string t.name

/-- Reads a provider type. -/
def reader : Reader ProviderType :=
  Reader.string.refine fun name =>
    match ofName name with
    | .ok t => .ok t
    | .error fault => .error fault.message

end ProviderType

end TokenSteward.Provider
