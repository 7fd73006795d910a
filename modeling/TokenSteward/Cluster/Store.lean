import TokenSteward.Cluster.Draws
import TokenSteward.Failure
import TokenSteward.Resource.Object

/-! # Stores of objects

A store keeps the objects of one kind by their keys. Every write gives its object a version higher
than all before, and is told to those who follow the store. Writers name the version that they have
read, and a write on top of another one is refused. Specification and status are written apart, and
a guarded object whose deletion is requested stays until its last guard is gone.
-/

namespace TokenSteward.Cluster

open TokenSteward.Resource TokenSteward.Number

/-- A change that a store tells (`WatchEvent`). -/
inductive Event (σ τ : Type) where
  | applied (o : Object σ τ)
  | deleted (o : Object σ τ)

/-- The object that a change is about. -/
def Event.object {σ τ : Type} : Event σ τ → Object σ τ
  | .applied o => o
  | .deleted o => o

/-- The objects of one kind (`MemoryObjectStore`). Uids are drawn by the number of objects created
before, and names by that of the names made up before. The latest of the names made up and the latest
change come first. -/
structure Store (σ τ : Type) where
  kind : String
  draws : Draws
  objects : Table Key (Object σ τ)
  version : Nat
  creations : Nat
  namings : List String
  history : List (Event σ τ)

namespace Store

variable {σ τ : Type}

/-- The store without objects. -/
def empty (kind : String) (draws : Draws) : Store σ τ := ⟨kind, draws, Table.empty, 0, 0, [], []⟩

/-- The number of objects. -/
def size (s : Store σ τ) : Nat := s.objects.size

/-- The object at a key (`get`). -/
def get? (s : Store σ τ) (k : Key) : Option (Object σ τ) := s.objects.get? k

/-- The objects of a namespace, or of all of them, that a selector picks. -/
def list (s : Store σ τ) (space : Option String) (wanted : Selector) : List (Object σ τ) :=
  s.objects.values.filter fun o =>
    (match space with
      | some name => o.metadata.space == name
      | none => true) && wanted.selects o.metadata.labels

/-- The store with an object written under its key. -/
def write (s : Store σ τ) (o : Object σ τ) : Store σ τ :=
  { s with
    objects := s.objects.insert o.key o
    version := o.metadata.version
    history := .applied o :: s.history }

/-- The store without the object at a key, which is told as it was last. -/
def remove (s : Store σ τ) (k : Key) (o : Object σ τ) : Store σ τ :=
  { s with objects := s.objects.erase k, history := .deleted o :: s.history }

/-- The uid of the object that is created next. -/
def nextUid (s : Store σ τ) : String := s.draws.uid s.creations

/-- The names of the objects of a namespace. -/
def namesIn (s : Store σ τ) (space : String) : List String :=
  (s.objects.entries.filter fun e => e.1.space == space).map fun e => e.1.name

/-- The name for a new object, and the names that have been made up then. A name that is made up
(`generate_name`) is none of those in the namespace. -/
def nameFor (s : Store σ τ) (m : Metadata) : Option (String × List String) :=
  if !m.name.isEmpty then some (m.name, s.namings)
  else if m.generateName.isEmpty then none
  else
    let ending := s.draws.ending s.namings.length m.generateName (s.namesIn m.space)
    some (m.generateName ++ ending, (m.generateName ++ ending) :: s.namings)

/-- Creates an object. Whatever its metadata say, it is new and not marked for deletion. -/
def create (s : Store σ τ) (now : Timestamp) (o : Object σ τ) :
    Except StoreFailure (Object σ τ) × Store σ τ :=
  if o.metadata.space.isEmpty then (.error (.invalid s.kind "namespace is required"), s)
  else match s.nameFor o.metadata with
    | none => (.error (.invalid s.kind "name or generateName is required"), s)
    | some (name, namings) =>
      let key : Key := ⟨o.metadata.space, name⟩
      if s.objects.contains key then (.error (.alreadyExists s.kind key.text), s)
      else
        let made : Object σ τ := { o with metadata := { o.metadata with
          name := name
          uid := s.nextUid
          version := s.version + 1
          created := some now
          deleted := none } }
        (.ok made, { s.write made with creations := s.creations + 1, namings := namings })

/-- The conflict of a write that was made on top of another version than the stored one (`check_version`).
A version of zero stands for any. -/
def conflict? (s : Store σ τ) (stored incoming : Object σ τ) : Option StoreFailure :=
  if incoming.metadata.version ≠ 0 ∧ incoming.metadata.version ≠ stored.metadata.version then
    some (.conflict s.kind stored.key.text incoming.metadata.version stored.metadata.version)
  else none

/-- The stored object that a write is about, or why it cannot be written. -/
def writable (s : Store σ τ) (o : Object σ τ) : Except StoreFailure (Object σ τ) :=
  match s.get? o.key with
  | none => .error (.notFound s.kind o.key.text)
  | some stored =>
    match s.conflict? stored o with
    | some f => .error f
    | none => .ok stored

/-- An incoming object with all that only the store decides on taken from the stored one. -/
def blended (stored incoming : Object σ τ) : Object σ τ :=
  { incoming with
    metadata := { incoming.metadata with
      uid := stored.metadata.uid
      generateName := stored.metadata.generateName
      created := stored.metadata.created
      deleted := stored.metadata.deleted }
    status := stored.status }

/-- Writes specification and metadata. An object whose deletion is requested goes with its last
guard. -/
def update (s : Store σ τ) (o : Object σ τ) : Except StoreFailure (Object σ τ) × Store σ τ :=
  match s.writable o with
  | .error f => (.error f, s)
  | .ok stored =>
    let next := blended stored o
    if next.isDeleting && next.metadata.guards.isEmpty then (.ok next, s.remove o.key next)
    else
      let next := next.withVersion (s.version + 1)
      (.ok next, s.write next)

/-- Writes the status. An equal status is not written. -/
def updateStatus [DecidableEq τ] (s : Store σ τ) (o : Object σ τ) :
    Except StoreFailure (Object σ τ) × Store σ τ :=
  match s.writable o with
  | .error f => (.error f, s)
  | .ok stored =>
    if stored.status = o.status then (.ok stored, s)
    else
      let next := { stored with status := o.status }.withVersion (s.version + 1)
      (.ok next, s.write next)

/-- Requests the deletion of an object. One without guards is removed at once. -/
def delete (s : Store σ τ) (now : Timestamp) (k : Key) : Except StoreFailure Unit × Store σ τ :=
  match s.get? k with
  | none => (.error (.notFound s.kind k.text), s)
  | some stored =>
    if stored.metadata.guards.isEmpty then (.ok (), s.remove k stored)
    else if stored.isDeleting then (.ok (), s)
    else
      let next : Object σ τ := { stored with metadata := { stored.metadata with
        deleted := some now
        version := s.version + 1 } }
      (.ok (), s.write next)

/-! ## Following a store -/

/-- How many changes a follower may be behind (`WATCH_CAPACITY`). -/
def greatestLag : Nat := 256

/-- The number of changes so far. -/
def published (s : Store σ τ) : Nat := s.history.length

/-- The change with a number, counted from zero. -/
def change? (s : Store σ τ) (number : Nat) : Option (Event σ τ) :=
  if number < s.published then s.history[s.published - 1 - number]? else none

/-- What a follower sees next. -/
inductive Seen (σ τ : Type) where
  | change (e : Event σ τ)
  | missed (count : Nat)
  | nothing

/-- What a follower sees next who has seen a number of changes, and how many it has seen then. Who
is too far behind misses all but the latest changes. -/
def follow (s : Store σ τ) (seen : Nat) : Seen σ τ × Nat :=
  if greatestLag < s.published - seen then
    (.missed (s.published - seen - greatestLag), s.published - greatestLag)
  else match s.change? seen with
    | some e => (.change e, seen + 1)
    | none => (.nothing, seen)

/-- What a log shows of a store. -/
def describe (s : Store σ τ) : String :=
  Text.recordText "MemoryObjectStore" [("kind", Text.quoted s.kind), ("len", natText s.size)]

end Store

end TokenSteward.Cluster
