import TokenSteward.Json.Reader

/-! # Permissions

A permission names a kind of access to an area of a provider, in words that no provider owns. What
a token or a binding asks for is a list of permissions and a list of scopes that are passed on as
they are.
-/

namespace TokenSteward.Resource

open TokenSteward.Json

/-- A kind of access (`PermissionType`). -/
inductive Access where
  | read
  | write
  | readWrite
deriving DecidableEq, Repr, Inhabited

namespace Access

/-- The short name of a kind of access. -/
def text : Access → String
  | .read => "r"
  | .write => "w"
  | .readWrite => "rw"

/-- Whether the access reads. -/
def reads : Access → Bool
  | .read | .readWrite => true
  | .write => false

/-- Whether the access writes. -/
def writes : Access → Bool
  | .write | .readWrite => true
  | .read => false

/-- The place of a kind of access among all kinds. -/
def rank : Access → Nat
  | .read => 0
  | .write => 1
  | .readWrite => 2

/-- All kinds of access. -/
def all : List Access := [.read, .write, .readWrite]

/-- Reads a kind of access. -/
def reader : Reader Access := Reader.names (all.map fun a => (a.text, a))

end Access

/-- An area of a provider (`PermissionArea`). -/
inductive Area where
  | repository
  | repositoryMetadata
  | webhooks
  | user
  | registry
  | registryMetadata
deriving DecidableEq, Repr, Inhabited

namespace Area

/-- The name of an area. -/
def text : Area → String
  | .repository => "repository"
  | .repositoryMetadata => "repositoryMetadata"
  | .webhooks => "webhooks"
  | .user => "user"
  | .registry => "registry"
  | .registryMetadata => "registryMetadata"

/-- The place of an area among all areas. -/
def rank : Area → Nat
  | .repository => 0
  | .repositoryMetadata => 1
  | .webhooks => 2
  | .user => 3
  | .registry => 4
  | .registryMetadata => 5

/-- All areas. -/
def all : List Area :=
  [.repository, .repositoryMetadata, .webhooks, .user, .registry, .registryMetadata]

/-- Reads an area. -/
def reader : Reader Area := Reader.names (all.map fun a => (a.text, a))

end Area

/-- A kind of access to an area. -/
structure Permission where
  access : Access
  area : Area
deriving DecidableEq, Repr, Inhabited

namespace Permission

/-- The text of a permission. -/
def text (p : Permission) : String := p.access.text ++ ":" ++ p.area.text

/-- The order of permissions: by access, then by area. -/
def le (p q : Permission) : Bool :=
  p.access.rank < q.access.rank || (p.access.rank = q.access.rank && p.area.rank ≤ q.area.rank)

/-- The written form of a permission. -/
def toValue (p : Permission) : Value :=
  .object [("type", .string p.access.text), ("area", .string p.area.text)]

/-- Reads a permission. -/
def reader : Reader Permission :=
  Reader.record "struct Permission" default [
    Reader.required "type" Access.reader fun a p => { p with access := a },
    Reader.required "area" Area.reader fun a p => { p with area := a }]

end Permission

/-- What is asked for: permissions, and scopes passed on verbatim. -/
structure Permissions where
  required : List Permission
  additionalScopes : List String
deriving DecidableEq, Repr

namespace Permissions

/-- Nothing asked for. -/
def none : Permissions := ⟨[], []⟩

instance : Inhabited Permissions := ⟨none⟩

/-- Whether nothing is asked for. -/
def isEmpty (p : Permissions) : Bool := p.required.isEmpty && p.additionalScopes.isEmpty

/-- What is asked for, and a permission more. -/
def require (p : Permissions) (access : Access) (area : Area) : Permissions :=
  { p with required := p.required ++ [⟨access, area⟩] }

/-- What is asked for, and a scope more. -/
def withScope (p : Permissions) (scope : String) : Permissions :=
  { p with additionalScopes := p.additionalScopes ++ [scope] }

/-- The permissions in ascending order. -/
def sorted (p : Permissions) : List Permission := p.required.mergeSort Permission.le

/-- The written form of what is asked for. -/
def toValue (p : Permissions) : Value :=
  .object [("required", .array (p.required.map Permission.toValue)),
    ("additionalScopes", .strings p.additionalScopes)]

/-- Reads what is asked for. -/
def reader : Reader Permissions :=
  Reader.record "struct Permissions" none [
    Reader.optional "required" (Reader.list Permission.reader)
      fun all p => { p with required := all },
    Reader.optional "additionalScopes" (Reader.list Reader.string)
      fun all p => { p with additionalScopes := all }]

end Permissions

end TokenSteward.Resource
