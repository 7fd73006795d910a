import TokenSteward.Table
import TokenSteward.Json.Reader

/-! # Keys of objects

An object is addressed by the namespace it lives in and its name there. Keys are ordered by
namespace first, so the objects of one namespace lie together in a listing.
-/

namespace TokenSteward.Resource

open TokenSteward.Json

/-- The namespace of an object and its name in it (`ObjectKey`). -/
structure Key where
  space : String
  name : String
deriving DecidableEq, Repr, Inhabited

namespace Key

/-- The text of a key. -/
def text (k : Key) : String := k.space ++ "/" ++ k.name

/-- Keys are ordered by namespace, then by name. -/
instance : Ordered Key :=
  Ordered.ofImage (fun k => (k.space, k.name)) fun {a b} same => by
    cases a; cases b; simpa using same

/-- The written form of a key. -/
def toValue (k : Key) : Value :=
  .object [("namespace", .string k.space), ("name", .string k.name)]

/-- Reads a key. -/
def reader : Reader Key :=
  Reader.record "struct ObjectKey" default [
    Reader.required "namespace" Reader.string fun s k => { k with space := s },
    Reader.required "name" Reader.string fun s k => { k with name := s }]

end Key

end TokenSteward.Resource
