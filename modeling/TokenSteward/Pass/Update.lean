import TokenSteward.Pass.Basic

/-! # The pass over a data update

The token that a data update names is put into the queue of tokens, and the data update is deleted.
Someone else may have deleted it already.
-/

namespace TokenSteward

open TokenSteward.Cluster TokenSteward.Resource

/-- What a pass over a data update works with (`DataUpdateReconciler`): the number of the tokens' queue
(`token_queue`). -/
structure UpdateDesk where
  tokenQueue : Nat

/-- The pass over the data update at a key (`consume`). -/
def UpdateDesk.pass (d : UpdateDesk) (key : Key) : Pass Action := do
  match ← Pass.updates (.get key) with
  | none => pure .await
  | some u =>
    Pass.attempt (.enqueue d.tokenQueue (DataUpdate.token u))
    match ← Pass.attempt (.updates (.delete key)) with
    | .ok () => pure .await
    | .error f => if f.isNotFound then pure .await else .fail (.store f)

/-- What a log shows of those who work on data updates, with the queue they feed. -/
def UpdateDesk.describe (_ : UpdateDesk) (tokenQueue : String) : String :=
  Text.partialRecordText "DataUpdateReconciler" [("token_queue", tokenQueue)]

end TokenSteward
