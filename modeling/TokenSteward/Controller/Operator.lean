import TokenSteward.Controller.Machine
import TokenSteward.Pass.Binding
import TokenSteward.Pass.Token
import TokenSteward.Pass.Update

/-! # The operator

Three controllers over one cluster. A token is looked at again when a binding that was linked to it
is removed, a binding when its token changes, and a token when a data update names it.
-/

namespace TokenSteward.Controller

open TokenSteward.Cluster TokenSteward.Provider TokenSteward.Queue TokenSteward.Text

/-- The three controllers, with queues from a number on. -/
structure Operator where
  tokens : Controller
  bindings : Controller
  updates : Controller

namespace Operator

/-- The operator of checked settings. -/
def ofSettings (registry : Registry) (s : Settings) (firstQueue : Nat) :
    Except SettingsFault Operator := do
  s.validate
  let links ← s.linkBuilder?
  let tokens : TokenDesk := ⟨registry, links, .seconds s.recheckSecs.toNat⟩
  let bindings : BindingDesk := ⟨registry⟩
  let updates : UpdateDesk := ⟨firstQueue⟩
  .ok ⟨
    .fresh .accessToken .tokens [⟨.bindings, .released⟩] (fun k _ => tokens.pass k) s.tuning
      firstQueue,
    .fresh .binding .bindings [⟨.tokens, .dependents⟩] (fun k _ => bindings.pass k) s.tuning
      (firstQueue + 1),
    .fresh .dataUpdate .updates [] (fun k _ => updates.pass k) s.tuning (firstQueue + 2)⟩

/-- What a log shows of an operator that has not begun. -/
def describe (o : Operator) : String :=
  recordText "Operator" [("tokens", o.tokens.describe .empty),
    ("bindings", o.bindings.describe .empty), ("data_updates", o.updates.describe .empty)]

end Operator

/-- The machine with controllers and new queues, ready to be launched. -/
def Machine.install (m : Machine) (controllers : List Controller) (newQueues : Nat) : Machine :=
  let first := m.controllers.length
  { m with
    controllers := m.controllers ++ controllers
    queues := m.queues ++ List.replicate newQueues Dispenser.empty }.spawn
      (.launch ((List.range controllers.length).map (first + ·)))

/-- The machine with an operator, ready to be launched. -/
def Machine.installOperator (m : Machine) (o : Operator) : Machine :=
  m.install [o.tokens, o.bindings, o.updates] 3

end TokenSteward.Controller
