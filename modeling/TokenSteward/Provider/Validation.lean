import TokenSteward.Json.Reader
import TokenSteward.Text.Affix

/-! # The outcome of checking a credential

A provider lists what a credential does not grant; a credential is good if the list is empty.
-/

namespace TokenSteward.Provider

open TokenSteward.Json TokenSteward.Text

/-- What a credential does not grant, one text for each missing thing (`ValidationResult`). -/
structure Validation where
  missing : List String
deriving DecidableEq, Repr, Inhabited

namespace Validation

/-- Whether the credential grants everything. -/
def isValid (v : Validation) : Bool := v.missing.isEmpty

/-- What is missing, in one text. -/
def message (v : Validation) : String := joined ", " v.missing

/-- The written form of an outcome. -/
def toValue (v : Validation) : Value := .object [("scopeValidation", .strings v.missing)]

/-- Reads an outcome. -/
def reader : Reader Validation :=
  Reader.record "struct ValidationResult" ⟨[]⟩ [
    Reader.optional "scopeValidation" (Reader.list Reader.string) fun l _ => ⟨l⟩]

end Validation

end TokenSteward.Provider
