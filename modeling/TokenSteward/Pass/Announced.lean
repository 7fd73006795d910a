import TokenSteward.Pass.Basic

/-! # Announced writes

Who writes a secret record from outside (`NotifyingTokenStorage`) announces it by a data update, the
trigger, or the operator would not notice. A write that could not be announced counts as failed, although
the record is written.
-/

namespace TokenSteward.Announced

open TokenSteward.Cluster TokenSteward.Resource TokenSteward.Secret

/-- Announces a written record (`notify`). -/
def announce (owner : AccessToken) : Pass Unit := do
  match ← Pass.attempt (.updates (.create (DataUpdate.forToken owner.key))) with
  | .ok _ => pure ()
  | .error f => .fail (.vault (.backend ("token data for " ++ owner.key.text
      ++ " changed but the update trigger failed: " ++ f.message)))

/-- Writes a record and announces it. -/
def store (owner : AccessToken) (r : Record) : Pass Unit := do
  Pass.vault (.store owner r)
  announce owner

/-- Reads a record; there is nothing to announce. -/
def get (owner : AccessToken) : Pass (Option Record) := Pass.vault (.get owner)

/-- Removes a record and announces it. -/
def delete (owner : AccessToken) : Pass Unit := do
  Pass.vault (.delete owner)
  announce owner

/-- What a log shows of the writer of announced records. -/
def describe : String := "NotifyingTokenStorage(..)"

end TokenSteward.Announced
