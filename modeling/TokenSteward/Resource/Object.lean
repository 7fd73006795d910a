import TokenSteward.Resource.Metadata

/-! # Objects

Every kind of object has metadata, a specification that its users write, and a status that only
the operator writes.
-/

namespace TokenSteward.Resource

open TokenSteward.Json

/-- An object (`Resource`) with its specification and its status. -/
structure Object (σ τ : Type) where
  metadata : Metadata
  spec : σ
  status : τ
deriving DecidableEq, Repr, Inhabited

namespace Object

variable {σ τ : Type}

/-- The key of an object. -/
def key (o : Object σ τ) : Key := o.metadata.key

/-- Whether deletion of an object was requested. -/
def isDeleting (o : Object σ τ) : Bool := o.metadata.isDeleting

/-- The object with another version. -/
def withVersion (o : Object σ τ) (version : Nat) : Object σ τ :=
  { o with metadata := { o.metadata with version := version } }

/-- Reads an object. What is left out is as in `blank`. -/
def reader (label : String) (blank : Object σ τ) (spec : Reader σ) (status : Reader τ) :
    Reader (Object σ τ) :=
  Reader.record label blank [
    Reader.optional "metadata" Metadata.reader fun m o => { o with metadata := m },
    Reader.optional "spec" spec fun s o => { o with spec := s },
    Reader.optional "status" status fun s o => { o with status := s }]

/-- The written form of an object from those of its parts. -/
def toValue (spec : σ → Value) (status : τ → Value) (o : Object σ τ) : Value :=
  .object [("metadata", o.metadata.toValue), ("spec", spec o.spec), ("status", status o.status)]

end Object

/-- A field that is written only if its text is not empty. -/
def textField (name text : String) : List (String × Value) :=
  if text.isEmpty then [] else [(name, .string text)]

/-- A field that is written only if it has a value. -/
def valueField {α : Type} (name : String) (write : α → Value) : Option α → List (String × Value)
  | none => []
  | some a => [(name, write a)]

end TokenSteward.Resource
