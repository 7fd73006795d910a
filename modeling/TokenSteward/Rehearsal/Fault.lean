import TokenSteward.Cluster.Request

/-! # Arranged faults

For a rehearsal, faults are arranged for the next calls of a method: a call fails without effect, or
someone else changes or removes the object just before the call.
-/

namespace TokenSteward.Rehearsal

open TokenSteward.Cluster TokenSteward.Resource

/-- The methods of a store. -/
inductive StoreMethod where
  | get
  | list
  | create
  | update
  | updateStatus
  | delete
deriving DecidableEq, Repr

/-- The method that a request calls. -/
def StoreMethod.ofRequest {σ τ : Type} : StoreRequest σ τ → StoreMethod
  | .get _ => .get
  | .list _ _ => .list
  | .create _ => .create
  | .update _ => .update
  | .updateStatus _ => .updateStatus
  | .delete _ => .delete

/-- The methods of a vault. -/
inductive VaultMethod where
  | store
  | get
  | delete
deriving DecidableEq, Repr

/-- The method that a request calls. -/
def VaultMethod.ofRequest : VaultRequest → VaultMethod
  | .store _ _ => .store
  | .get _ => .get
  | .delete _ => .delete

/-- A fault in a call to a store: it is out of reach, it finds another version, or someone labels or
removes the object first. -/
inductive StoreFault where
  | unavailable (message : String)
  | conflict (expected actual : Nat)
  | touch
  | remove
deriving DecidableEq, Repr

/-- Faults that wait for calls, each for a number of calls of its method. -/
abbrev Faults (μ φ : Type) := List (μ × φ × Nat)

namespace Faults

variable {μ φ : Type}

/-- Arranges a fault for a number of calls, after all that are arranged already. -/
def arrange (f : Faults μ φ) (method : μ) (fault : φ) (times : Nat) : Faults μ φ :=
  f ++ [(method, fault, times)]

/-- The fault of a call, and the faults that are left. -/
def next [DecidableEq μ] (method : μ) : Faults μ φ → Option φ × Faults μ φ
  | [] => (none, [])
  | (m, fault, times) :: rest =>
    if m = method then
      match times with
      | 0 => next method rest
      | 1 => (some fault, rest)
      | more + 1 => (some fault, (m, fault, more) :: rest)
    else
      let (found, rest) := next method rest
      (found, (m, fault, times) :: rest)

end Faults

/-- The label that is set on an object by someone else. -/
def touchLabel : String := "touched"

variable {σ τ : Type}

/-- The key that a request is about; a blank one if it is about many objects. -/
def keyOfRequest : StoreRequest σ τ → Key
  | .get k | .delete k => k
  | .list _ _ => ⟨"", ""⟩
  | .create o | .update o | .updateStatus o => o.key

/-- The store after someone has labelled the object at a key. -/
def touched (s : Store σ τ) (k : Key) : Store σ τ :=
  match s.get? k with
  | none => s
  | some o => (s.update { o with metadata := o.metadata.setLabel touchLabel "yes" }).2

/-- The store after someone has taken the guards off the object at a key and deleted it. -/
def removed (s : Store σ τ) (now : Timestamp) (k : Key) : Store σ τ :=
  match s.get? k with
  | none => s
  | some o => ((s.update { o with metadata := { o.metadata with guards := [] } }).2.delete now k).2

/-- Carries out a request to a store in the presence of a fault. -/
def performWith [DecidableEq τ] (fault : Option StoreFault) (s : Store σ τ) (now : Timestamp)
    (r : StoreRequest σ τ) : Except StoreFailure r.Result × Store σ τ :=
  match fault with
  | none => s.perform now r
  | some (.unavailable message) => (.error (.unavailable message), s)
  | some (.conflict expected actual) =>
    (.error (.conflict s.kind (keyOfRequest r).text expected actual), s)
  | some .touch => (touched s (keyOfRequest r)).perform now r
  | some .remove => (removed s now (keyOfRequest r)).perform now r

end TokenSteward.Rehearsal
