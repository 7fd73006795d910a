import TokenSteward.Secret.Record
import TokenSteward.Resource.AccessToken

/-! # The vault

A vault, or token storage, holds one secret record per token. A record is kept under the token's key and
uid, so a token that is made again under an old name never sees the record of its predecessor.
-/

namespace TokenSteward.Secret

open TokenSteward.Json TokenSteward.Resource

/-- The key of a secret record (`StorageKey`). -/
structure VaultKey where
  space : String
  name : String
  uid : String
deriving DecidableEq, Repr, Inhabited

namespace VaultKey

/-- Keys are ordered by namespace, name and uid. -/
instance : Ordered VaultKey :=
  Ordered.ofImage (fun k => (k.space, k.name, k.uid)) fun {a b} same => by
    cases a; cases b; simpa using same

/-- The key of the record that belongs to a token (`for_owner`). -/
def ofOwner (t : AccessToken) : VaultKey := ⟨t.metadata.space, t.metadata.name, t.metadata.uid⟩

/-- The text of a key. -/
def text (k : VaultKey) : String := k.space ++ "/" ++ k.name ++ " (" ++ k.uid ++ ")"

/-- The written form of a key. -/
def toValue (k : VaultKey) : Value :=
  .object [("namespace", .string k.space), ("name", .string k.name), ("uid", .string k.uid)]

/-- Reads a key. -/
def reader : Reader VaultKey :=
  Reader.record "struct StorageKey" default [
    Reader.required "namespace" Reader.string fun s k => { k with space := s },
    Reader.required "name" Reader.string fun s k => { k with name := s },
    Reader.required "uid" Reader.string fun s k => { k with uid := s }]

end VaultKey

/-- What can go wrong in a vault (`StorageError`). -/
inductive VaultFailure where
  | backend (message : String)
deriving DecidableEq, Repr

namespace VaultFailure

/-- The wording of a failure. -/
def message : VaultFailure → String
  | .backend message => "Backend failure: " ++ message ++ "."

/-- The written form of a failure. -/
def toValue : VaultFailure → Value
  | .backend message => .object [("Backend", .object [("message", .string message)])]

/-- Reads a failure. -/
def reader : Reader VaultFailure :=
  Reader.choice [("Backend", .filled <|
    (Reader.record "struct variant StorageError::Backend" "" [
      Reader.required "message" Reader.string fun m _ => m]).map .backend)]

end VaultFailure

/-- The secret records by their keys (`MemoryTokenStorage`). -/
abbrev Vault := Table VaultKey Record

end TokenSteward.Secret
