import TokenSteward.Backoff
import TokenSteward.Controller.Watch
import TokenSteward.Queue.Dispenser
import TokenSteward.Settings

/-! # Controllers

A controller brings the objects of one kind to the state they should be in: it follows stores, lists
everything from time to time, and lets its workers run a pass over every key that comes up. A pass
that failed for a passing reason is tried again after a delay.
-/

namespace TokenSteward.Controller

open TokenSteward.Cluster TokenSteward.Resource TokenSteward.Queue TokenSteward.Text

/-- What a controller works on. -/
inductive ControllerKind where
  | accessToken
  | binding
  | dataUpdate
deriving DecidableEq, Repr

namespace ControllerKind

/-- The label of a kind in counts. -/
def text : ControllerKind → String
  | .accessToken => "access_token"
  | .binding => "binding"
  | .dataUpdate => "data_update"

/-- The name of a kind in a log. -/
def describe : ControllerKind → String
  | .accessToken => "AccessToken"
  | .binding => "Binding"
  | .dataUpdate => "DataUpdate"

end ControllerKind

/-- What became of a pass, in counts (`ReconcileOutcome`). -/
inductive Outcome where
  | attempt
  | success
  | requeue
  | failure
deriving DecidableEq, Repr

/-- The label of an outcome in counts. -/
def Outcome.text : Outcome → String
  | .attempt => "attempt"
  | .success => "success"
  | .requeue => "requeue"
  | .failure => "failure"

end TokenSteward.Controller

namespace TokenSteward

open TokenSteward.Resource TokenSteward.Text TokenSteward.Controller

/-- A controller: what it works on and follows, the pass over a key (the `reconcile` of its
`Reconciler`), which may differ with the number of passes over it before, how it works, the number of its
queue, and what it remembers of each key. -/
structure Controller where
  kind : ControllerKind
  source : Source
  watches : List Watch
  reconcile : Key → Nat → Pass Action
  tuning : Tuning
  queue : Nat
  backoff : Backoff
  started : Table Key Nat

namespace Controller

/-- A controller that has done nothing yet. -/
def fresh (kind : ControllerKind) (source : Source) (watches : List Watch)
    (reconcile : Key → Nat → Pass Action) (tuning : Tuning) (queue : Nat) : Controller :=
  ⟨kind, source, watches, reconcile, tuning, queue,
    Backoff.start tuning.backoffBase tuning.backoffMax, Table.empty⟩

/-- The number of passes over a key that have been started. -/
def startedOf (c : Controller) (k : Key) : Nat := (c.started.get? k).getD 0

/-- The number of workers; there is always one. -/
def workers (c : Controller) : Nat := Nat.max c.tuning.workers 1

/-- What a log shows of a controller with its queue. -/
def describe (c : Controller) (queue : Queue) : String :=
  partialRecordText "Controller" [("kind", c.kind.describe), ("queue", queue.describe),
    ("settings", c.tuning.describe)]

end Controller

end TokenSteward
