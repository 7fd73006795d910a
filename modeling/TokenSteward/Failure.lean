import TokenSteward.OAuth.Signing
import TokenSteward.Provider.Failure
import TokenSteward.Secret.Vault

/-! # What can go wrong

Every part of the operator has its own failures; a pass over an object fails with one of them. The
class of a failure decides what becomes of the object: only failures of the infrastructure are
worth another try.
-/

namespace TokenSteward

open TokenSteward.Json TokenSteward.Number TokenSteward.Resource TokenSteward.Provider
open TokenSteward.OAuth TokenSteward.Secret

/-- The class of a failure (`ErrorKind`). -/
inductive FailureClass where
  | infrastructure
  | content
  | configuration
deriving DecidableEq, Repr

namespace FailureClass

/-- The name of a class. -/
def text : FailureClass → String
  | .infrastructure => "infrastructure"
  | .content => "content"
  | .configuration => "configuration"

/-- Whether another try may succeed with nothing changed. -/
def isRetryable : FailureClass → Bool
  | .infrastructure => true
  | _ => false

end FailureClass

/-- Why a call to the store of a kind of object failed (`ClusterError`). -/
inductive StoreFailure where
  | notFound (kind : String) (key : String)
  | alreadyExists (kind : String) (key : String)
  | conflict (kind : String) (key : String) (expected actual : Nat)
  | invalid (kind message : String)
  | unavailable (message : String)
deriving DecidableEq, Repr

namespace StoreFailure

/-- The wording of a failure. -/
def message : StoreFailure → String
  | .notFound kind key => kind ++ " " ++ key ++ " was not found."
  | .alreadyExists kind key => kind ++ " " ++ key ++ " already exists."
  | .conflict kind key expected actual =>
    kind ++ " " ++ key ++ " was modified concurrently; expected version "
      ++ natText expected ++ ", found " ++ natText actual ++ "."
  | .invalid kind message => kind ++ " is invalid: " ++ message ++ "."
  | .unavailable message => "Cluster API is unavailable: " ++ message ++ "."

/-- Whether the object was not there. -/
def isNotFound : StoreFailure → Bool
  | .notFound .. => true
  | _ => false

/-- Whether the object had changed since it was read. -/
def isConflict : StoreFailure → Bool
  | .conflict .. => true
  | _ => false

end StoreFailure

/-- What is wrong with the settings (`ConfigError`). -/
inductive SettingsFault where
  | parse (place message : String)
  | nonPositive (setting : String)
  | keyEncoding
  | keyTooShort (least actual : Nat)
  | unknownProvider (url : String)
deriving DecidableEq, Repr

namespace SettingsFault

/-- The wording of a fault. -/
def message : SettingsFault → String
  | .parse place message =>
    "Operator configuration is invalid at " ++ marked place ++ ": " ++ message ++ "."
  | .nonPositive setting => "The " ++ marked setting ++ " setting must be greater than zero."
  | .keyEncoding => "The OAuth state key is not valid base64."
  | .keyTooShort least actual => "The OAuth state key must be at least " ++ natText least
      ++ " bytes, got " ++ natText actual ++ "."
  | .unknownProvider url => "No service provider is registered for " ++ marked url ++ "."

/-- The fault of settings whose key is none. -/
def ofKeyFault : KeyFault → SettingsFault
  | .encoding => .keyEncoding
  | .tooShort length => .keyTooShort leastKeyLength length

end SettingsFault

/-- Why a pass over an object failed (`Error`). -/
inductive Failure where
  | store (f : StoreFailure)
  | vault (f : VaultFailure)
  | provider (f : ProviderFailure)
  | state (f : StateFault)
  | settings (f : SettingsFault)
  | deadline (key : String)
  | cancelled (key : String)
deriving DecidableEq, Repr

namespace Failure

/-- The wording of a failure. -/
def message : Failure → String
  | .store f => f.message
  | .vault f => f.message
  | .provider f => f.message
  | .state f => f.message
  | .settings f => f.message
  | .deadline key => "Reconcile of " ++ key ++ " exceeded its deadline."
  | .cancelled key => "Reconcile of " ++ key ++ " was cancelled."

/-- The class of a failure (`kind`). -/
def toClass : Failure → FailureClass
  | .store _ | .vault _ | .deadline _ | .cancelled _ => .infrastructure
  | .provider f => if f.isRefusal then .content else .infrastructure
  | .state _ => .content
  | .settings _ => .configuration

/-- Whether another try may succeed with nothing changed. -/
def isRetryable (f : Failure) : Bool := f.toClass.isRetryable

end Failure

end TokenSteward
