import TokenSteward.Resource.Key
import TokenSteward.Resource.Timestamp

/-! # What every object carries

An object's metadata names it, counts its versions, says when it was created and when its deletion
was requested, labels it, and lists the guards that hold its removal back. A selector picks objects
by labels.
-/

namespace TokenSteward.Resource

open TokenSteward.Json

/-- The guard that holds a token while bindings are linked to it (`LINKED_BINDINGS_FINALIZER`). -/
def bindingsGuard : String := "tokens.operator.dev/linked-bindings"

/-- The guard that holds a token while its secret record may exist (`TOKEN_STORAGE_FINALIZER`). -/
def secretGuard : String := "tokens.operator.dev/token-storage"

/-- The label by which a binding names the token it is linked to (`LINKED_ACCESS_TOKEN_LABEL`). -/
def linkLabel : String := "tokens.operator.dev/linked-access-token"

/-- The labels of an object. -/
abbrev Labels := Table String String

/-- The metadata of an object (`ObjectMeta`): its name or the beginning of one, its namespace, its uid, its
version (`resource_version`), when it was created (`creation_timestamp`) and its deletion was requested
(`deletion_timestamp`), its labels, and its guards (`finalizers`). A version of zero stands for no version
at all. -/
structure Metadata where
  name : String
  generateName : String
  space : String
  uid : String
  version : Nat
  created : Option Timestamp
  deleted : Option Timestamp
  labels : Labels
  guards : List String
deriving DecidableEq, Repr

namespace Metadata

/-- Metadata without any entry. -/
def blank : Metadata := ⟨"", "", "", "", 0, none, none, Table.empty, []⟩

instance : Inhabited Metadata := ⟨blank⟩

/-- The metadata of an object with a name of its own. -/
def named (space name : String) : Metadata := { blank with space := space, name := name }

/-- The metadata of an object whose name is to be made from its beginning. -/
def generated (space beginning : String) : Metadata :=
  { blank with space := space, generateName := beginning }

/-- The key of the object. -/
def key (m : Metadata) : Key := ⟨m.space, m.name⟩

/-- Whether deletion was requested. -/
def isDeleting (m : Metadata) : Bool := m.deleted.isSome

/-- Whether a guard is there (`has_finalizer`). -/
def hasGuard (m : Metadata) (guard : String) : Bool := m.guards.contains guard

/-- The metadata with a guard, put last if it was not there (`add_finalizer`). -/
def addGuard (m : Metadata) (guard : String) : Metadata :=
  if m.hasGuard guard then m else { m with guards := m.guards ++ [guard] }

/-- The metadata without a guard (`remove_finalizer`). -/
def removeGuard (m : Metadata) (guard : String) : Metadata :=
  { m with guards := m.guards.filter (· != guard) }

/-- The value of a label. -/
def label? (m : Metadata) (name : String) : Option String := m.labels.get? name

/-- The metadata with a label set. -/
def setLabel (m : Metadata) (name value : String) : Metadata :=
  { m with labels := m.labels.insert name value }

/-- The written form of a time that may be missing. -/
def timeValue (t : Option Timestamp) : Value := (t.map Timestamp.toValue).getD .null

/-- The written form of labels. -/
def labelsValue (labels : Labels) : Value :=
  .object (labels.entries.map fun e => (e.1, .string e.2))

/-- The written form of metadata. -/
def toValue (m : Metadata) : Value :=
  .object [("name", .string m.name), ("generateName", .string m.generateName),
    ("namespace", .string m.space), ("uid", .string m.uid),
    ("resourceVersion", .nat m.version), ("creationTimestamp", timeValue m.created),
    ("deletionTimestamp", timeValue m.deleted), ("labels", labelsValue m.labels),
    ("finalizers", .strings m.guards)]

/-- Reads labels; of equal names the last one counts. -/
def labelsReader : Reader Labels := (Reader.pairs Reader.string).map Table.ofList

/-- Reads metadata; an entry that is left out is blank. -/
def reader : Reader Metadata :=
  Reader.record "struct ObjectMeta" blank [
    Reader.optional "name" Reader.string fun s m => { m with name := s },
    Reader.optional "generateName" Reader.string fun s m => { m with generateName := s },
    Reader.optional "namespace" Reader.string fun s m => { m with space := s },
    Reader.optional "uid" Reader.string fun s m => { m with uid := s },
    Reader.optional "resourceVersion" Reader.word64 fun n m => { m with version := n.toNat },
    Reader.optional "creationTimestamp" (Reader.option Timestamp.reader)
      fun t m => { m with created := t },
    Reader.optional "deletionTimestamp" (Reader.option Timestamp.reader)
      fun t m => { m with deleted := t },
    Reader.optional "labels" labelsReader fun l m => { m with labels := l },
    Reader.optional "finalizers" (Reader.list Reader.string) fun g m => { m with guards := g }]

theorem hasGuard_addGuard (m : Metadata) (guard other : String) :
    (m.addGuard guard).hasGuard other = (decide (other = guard) || m.hasGuard other) := by
  simp only [addGuard]
  split
  · next present =>
    by_cases same : other = guard
    · simp [same, present]
    · simp [same]
  · simp only [hasGuard, List.contains_eq_mem, List.mem_append, List.mem_singleton]
    by_cases same : other = guard <;> simp [same]

theorem hasGuard_removeGuard (m : Metadata) (guard other : String) :
    (m.removeGuard guard).hasGuard other = (!decide (other = guard) && m.hasGuard other) := by
  simp only [removeGuard, hasGuard, List.contains_eq_mem, List.mem_filter]
  by_cases same : other = guard <;> simp [same]

end Metadata

/-- Labels that an object has to have, each with its value (`LabelSelector`). -/
abbrev Selector := Table String String

namespace Selector

/-- The selector that every object passes. -/
def everything : Selector := Table.empty

/-- The selector that wants one label (`everything` with one `matching`). -/
def only (name value : String) : Selector := Table.empty.insert name value

/-- Whether labels pass a selector (`matches`). -/
def selects (wanted : Selector) (labels : Labels) : Bool :=
  wanted.entries.all fun e => labels.get? e.1 == some e.2

end Selector

end TokenSteward.Resource
