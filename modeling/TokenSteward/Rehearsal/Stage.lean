import TokenSteward.Controller.Schedule
import TokenSteward.Rehearsal.Behaviour
import TokenSteward.Rehearsal.Fault

/-! # The stage of a rehearsal

On a stage the requests of passes are answered by a cluster with arranged faults and by providers
that behave as they are told. A pass can be run on it in one go, with nothing in between.
-/

namespace TokenSteward.Rehearsal

open TokenSteward.Cluster TokenSteward.Resource TokenSteward.Provider TokenSteward.Secret
open TokenSteward.Controller

/-- The arranged faults, how the providers behave, by the names of their types and their URLs, and
their calls, the latest first. -/
structure Stage where
  tokens : Faults StoreMethod StoreFault
  bindings : Faults StoreMethod StoreFault
  updates : Faults StoreMethod StoreFault
  vault : Faults VaultMethod String
  behaviours : Table (String × String) Behaviour
  calls : List Call

namespace Stage

/-- A stage without faults, whose providers were told nothing. -/
def bare : Stage := ⟨[], [], [], [], Table.empty, []⟩

/-- How a provider behaves. -/
def behaviour (s : Stage) (p : Service) : Behaviour :=
  (s.behaviours.get? (p.type.name, p.baseUrl)).getD .plain

/-- Changes how a provider behaves. -/
def instruct (s : Stage) (p : Service) (change : Behaviour → Behaviour) : Stage :=
  { s with behaviours := s.behaviours.insert (p.type.name, p.baseUrl) (change (s.behaviour p)) }

/-- Answers a request to the tokens' store. -/
def answerTokens (s : Stage) (c : Cluster) (r : StoreRequest TokenSpec TokenStatus) :
    Except StoreFailure r.Result × Cluster × Stage :=
  let (fault, rest) := s.tokens.next (.ofRequest r)
  let (answer, store) := performWith fault c.tokens c.now r
  (answer, { c with tokens := store }, { s with tokens := rest })

/-- Answers a request to the bindings' store. -/
def answerBindings (s : Stage) (c : Cluster) (r : StoreRequest BindingSpec BindingStatus) :
    Except StoreFailure r.Result × Cluster × Stage :=
  let (fault, rest) := s.bindings.next (.ofRequest r)
  let (answer, store) := performWith fault c.bindings c.now r
  (answer, { c with bindings := store }, { s with bindings := rest })

/-- Answers a request to the updates' store. -/
def answerUpdates (s : Stage) (c : Cluster) (r : StoreRequest DataUpdateSpec Unit) :
    Except StoreFailure r.Result × Cluster × Stage :=
  let (fault, rest) := s.updates.next (.ofRequest r)
  let (answer, store) := performWith fault c.updates c.now r
  (answer, { c with updates := store }, { s with updates := rest })

/-- Answers a request to the vault. -/
def answerVault (s : Stage) (c : Cluster) (r : VaultRequest) :
    Except VaultFailure r.Result × Cluster × Stage :=
  let (fault, rest) := s.vault.next (.ofRequest r)
  let s := { s with vault := rest }
  match fault with
  | some message => (.error (.backend message), c, s)
  | none =>
    let (answer, vault) := performVault c.vault r
    (answer, { c with vault := vault }, s)

/-- Answers a request to a provider. -/
def answerProvider (s : Stage) (c : Cluster) (p : Service) (r : ProviderRequest) :
    Except ProviderFailure r.Result × Cluster × Stage :=
  ((s.behaviour p).answer c r, c, { s with calls := .ofRequest p.type r :: s.calls })

/-- Answers a request. What concerns queues and time is up to the machine. -/
def answer : (r : Request) → Cluster → Stage → r.Answer × Cluster × Stage
  | .tokens r, c, s => s.answerTokens c r
  | .bindings r, c, s => s.answerBindings c r
  | .updates r, c, s => s.answerUpdates c r
  | .vault r, c, s => s.answerVault c r
  | .provider p r, c, s => s.answerProvider c p r
  | .enqueue _ _, c, s => ((), c, s)
  | .clock, c, s => (c.clock, c, s)
  | .pause _, c, s => ((), c, s)

/-- The stage as those who answer the requests of the machine. -/
def partners : Partners Stage := ⟨answer⟩

/-- Runs a pass in one go. It does not wait where it would pause. -/
def perform {α : Type} : Pass α → Run Stage → Except Failure α × Run Stage
  | .done a, run => (.ok a, run)
  | .fail f, run => (.error f, run)
  | .ask (.enqueue q k) next, run =>
    perform (next ()) { run with machine := run.machine.enqueue q k }
  | .ask r next, run =>
    let (a, c, s) := answer r run.machine.cluster run.memory
    perform (next a) { run with machine := run.machine.withCluster c, memory := s }

end Stage

end TokenSteward.Rehearsal
