import TokenSteward.Proofs.Pass.Guards
import TokenSteward.Proofs.Pass.Requests
import TokenSteward.Proofs.Status.Sources

/-! # Proper statuses

The parts of a status fit its phase, nothing is wrong with a token that is ready or awaits data, and
a link is there for a token that awaits data alone. Whatever it is answered, a pass asks only for
statuses that are proper as a whole, and the stores carry a status over as a whole or replace it as a
whole.
-/

namespace TokenSteward

open TokenSteward.Cluster TokenSteward.Resource TokenSteward.Secret TokenSteward.Provider Pass

/-- What holds of the status of every token. -/
structure Resource.TokenStatus.Proper (s : TokenStatus) : Prop where
  consistent : s.isConsistent = true
  message : s.phase = .awaitingData ∨ s.phase = .ready → s.message = ""
  link : s.phase ≠ .awaitingData → s.link = ""

theorem proper_awaiting (link : String) : (TokenStatus.awaiting link).Proper :=
  ⟨rfl, fun _ => rfl, fun other => absurd rfl other⟩

theorem proper_ready (holder : Holder) : (TokenStatus.ready holder).Proper :=
  ⟨rfl, fun _ => rfl, fun _ => rfl⟩

theorem proper_invalid (reason : TokenReason) (message : String) :
    (TokenStatus.invalid reason message).Proper :=
  ⟨rfl, fun phase => by simp [TokenStatus.invalid] at phase, fun _ => rfl⟩

theorem proper_failed (reason : TokenReason) (message : String) :
    (TokenStatus.failed reason message).Proper :=
  ⟨rfl, fun phase => by simp [TokenStatus.failed] at phase, fun _ => rfl⟩

/-- A request brings no improper status into the tokens' store. -/
def Neat : Request → Prop
  | .tokens (.create o) => o.status.Proper
  | .tokens (.updateStatus o) => o.status.Proper
  | _ => True

/-- All stored tokens have proper statuses. -/
def Cluster.Proper (c : Cluster) : Prop := ∀ k t, c.tokens.get? k = some t → t.status.Proper

/-- Neat requests keep the statuses proper. -/
theorem Cluster.Proper.answer {c : Cluster} (proper : c.Proper) (sound : c.Sound) (x : Chance)
    {r : Request} (neat : Neat r) : (c.answer x r).2.Proper := by
  have brings : ∀ status ∈ r.brings?, status.Proper := by
    intro status brought
    cases r with
    | tokens q =>
      cases q with
      | create o => exact Option.some.inj brought ▸ neat
      | updateStatus o => exact Option.some.inj brought ▸ neat
      | _ => contradiction
    | _ => contradiction
  exact AllStatuses.answer proper sound x brings

/-! ## What passes ask for -/

/-- The discipline of neat requests, with any answers. -/
def neatly : Discipline Unit := ⟨fun _ r => Neat r, fun _ _ _ _ => True⟩

namespace TokenDesk

variable (d : TokenDesk)

/-- The status that a pass comes to is proper, whatever it is answered. -/
theorem proper_desiredStatus (t : AccessToken) : (d.desiredStatus t).Obeys neatly
    (fun _ result => ∀ s, result = .ok s → s.Proper) () := by
  refine obeys_status (fun _ s => s.Proper) (fun _ => True) d t ?_ (fun _ _ _ _ _ _ => trivial) ?_
    (fun _ _ => proper_awaiting _) (fun _ _ _ _ _ _ _ => proper_awaiting _) trivial
  · intro _ r looks
    cases looks <;> trivial
  · intro _ s linkless
    cases linkless with
    | failed reason message => exact proper_failed reason message
    | invalid reason message => exact proper_invalid reason message
    | ready holder => exact proper_ready holder
    | awaiting => exact proper_awaiting ""

theorem neat_work (t : AccessToken) : (d.work t).Asks Neat := by
  apply obeys_bind.mpr
  apply (d.proper_desiredStatus t).mono
  intro _ result proper
  cases result with
  | error f => trivial
  | ok status =>
    change Asks Neat (if _ then _ else _)
    split
    · exact (asks_tokens (proper status rfl)).bind fun _ => asks_pure _
    · exact asks_pure _

theorem neat_pass (k : Key) : (d.pass k).Asks Neat := by
  rw [pass_eq]
  refine (asks_tokens trivial).bind fun found => ?_
  cases found with
  | none => exact asks_pure _
  | some t =>
    dsimp only
    split
    · apply (d.asks_finalize t).weaken
      intro r kind
      cases kind <;> trivial
    · split
      · exact (asks_tokens trivial).bind d.neat_work
      · exact d.neat_work t

end TokenDesk

theorem BindingDesk.neat_pass (d : BindingDesk) (k : Key) : (d.pass k).Asks Neat := by
  apply (d.asks_pass k).weaken
  intro r kind
  cases kind with
  | create b s => exact proper_awaiting ""
  | _ => trivial

theorem UpdateDesk.neat_pass (d : UpdateDesk) (k : Key) : (d.pass k).Asks Neat := by
  apply (d.asks_pass k).weaken
  intro r kind
  cases kind <;> trivial

end TokenSteward
