import TokenSteward.Pass.Binding
import TokenSteward.Pass.Token
import TokenSteward.Pass.Update
import TokenSteward.Proofs.Pass.Discipline

/-! # What the passes ask for

Each pass asks for few kinds of things. To work out the status of a token takes the vault, a
provider and the clock, and changes nothing. A pass over a binding reads and creates tokens and
writes that binding. A pass over a data update reads it, adds a key to a queue, and deletes it.
-/

namespace TokenSteward

open TokenSteward.Cluster TokenSteward.Resource TokenSteward.Provider Pass

/-- The work on the status of a token: it is worked out, and written if it is another one. -/
def TokenDesk.work (d : TokenDesk) (t : AccessToken) : Pass Action :=
  d.desiredStatus t >>= fun status =>
    if status ≠ t.status then
      Pass.tokens (.updateStatus { t with status := status }) >>= fun _ => pure .await
    else pure .await

/-- A token is let go, or its status is worked on once it has guards. -/
theorem TokenDesk.pass_eq (d : TokenDesk) (k : Key) :
    d.pass k = Pass.tokens (.get k) >>= fun
      | none => pure .await
      | some t => if t.isDeleting then d.finalize t
        else if isUnguarded t then Pass.tokens (.update (guarded t)) >>= d.work else d.work t := by
  unfold pass
  refine bind_congr fun found => ?_
  cases found with
  | none => rfl
  | some t =>
    dsimp only
    split
    · rfl
    · split <;> rfl

/-- What it takes to work out the status of a token. -/
inductive TokenDesk.Looks : Request → Prop where
  | record (owner : AccessToken) : Looks (.vault (.get owner))
  | provider (s : Service) (r : ProviderRequest) : Looks (.provider s r)
  | clock : Looks .clock

theorem TokenDesk.Looks.ne_tokens {r : Request} (looks : Looks r) :
    ∀ q, r ≠ .tokens q := by
  rintro q rfl
  cases looks

theorem TokenDesk.asks_desiredStatus (d : TokenDesk) (token : AccessToken) :
    (d.desiredStatus token).Asks Looks := by
  unfold desiredStatus
  split
  · exact asks_pure _
  · next s _ =>
    apply (asks_vault (.record _)).bind
    intro found
    cases found with
    | none =>
      dsimp only
      unfold awaitingStatus
      split
      · exact asks_pure _
      · dsimp only
        split
        · exact asks_pure _
        · exact (asks_attempt .clock).bind fun now => asks_pure _
    | some r =>
      apply (asks_provider (.provider s _)).bind
      intro validation
      split
      · exact asks_pure _
      · apply (asks_attempt (.provider s _)).bind
        intro answer
        split
        · exact asks_pure _
        · split
          · exact asks_pure _
          · exact asks_fail _

/-- The work on a status takes no more than that and a write of a status. -/
theorem TokenDesk.asks_work (d : TokenDesk) (token : AccessToken) :
    (d.work token).Asks fun r => Looks r ∨ ∃ o, r = .tokens (.updateStatus o) := by
  refine ((d.asks_desiredStatus token).weaken fun r looks => .inl looks).bind fun status => ?_
  split
  · exact (asks_tokens (.inr ⟨_, rfl⟩)).bind fun _ => asks_pure _
  · exact asks_pure _

/-- What it takes to look for a binding's token. -/
inductive BindingDesk.Seeks : Request → Prop where
  | token (k : Key) : Seeks (.tokens (.get k))
  | provider (s : Service) (b : Binding) : Seeks (.provider s (.lookup b))
  | create (b : Binding) (s : Service) : Seeks (.tokens (.create (freshToken b s)))

theorem BindingDesk.Seeks.ne_bindings {r : Request} (seeks : Seeks r) : ∀ q, r ≠ .bindings q := by
  rintro q rfl
  cases seeks

/-- What a pass over a binding asks for. -/
inductive BindingDesk.Requests (k : Key) : Request → Prop where
  | read : Requests k (.bindings (.get k))
  | token (k' : Key) : Requests k (.tokens (.get k'))
  | provider (s : Service) (b : Binding) : Requests k (.provider s (.lookup b))
  | create (b : Binding) (s : Service) : Requests k (.tokens (.create (freshToken b s)))
  | label (b : Binding) : Requests k (.bindings (.update b))
  | status (b : Binding) : Requests k (.bindings (.updateStatus b))

theorem BindingDesk.asks_resolve (d : BindingDesk) (b : Binding) :
    (d.resolve b).Asks Seeks := by
  unfold resolve
  split
  · exact asks_pure _
  · next s _ =>
    have current : (currentToken b).Asks Seeks := by
      unfold currentToken
      split
      · exact asks_pure _
      · exact asks_tokens (.token _)
    apply current.bind
    intro found
    cases found with
    | some token => exact asks_pure _
    | none =>
      apply (asks_attempt (.provider s b)).bind
      intro answer
      split
      · exact asks_pure _
      · exact (asks_tokens (.create b s)).bind fun token => asks_pure _
      · split
        · exact asks_pure _
        · exact asks_fail _

theorem BindingDesk.asks_pass (d : BindingDesk) (k : Key) : (d.pass k).Asks (Requests k) := by
  unfold pass
  apply (asks_bindings .read).bind
  intro found
  cases found with
  | none => exact asks_pure _
  | some b =>
    dsimp only
    split
    · exact asks_pure _
    · have write (b : Binding) (status : BindingStatus) :
          Asks (Requests k) (if status ≠ b.status then
            (Pass.bindings (.updateStatus { b with status := status }) >>= fun _ => pure .await)
            else pure Action.await) := by
        split
        · exact (asks_bindings (.status _)).bind fun _ => asks_pure _
        · exact asks_pure _
      have resolved : (d.resolve b).Asks (Requests k) := by
        apply (d.asks_resolve b).weaken
        intro r seeks
        cases seeks with
        | token k' => exact .token k'
        | provider s b => exact .provider s b
        | create b s => exact .create b s
      apply resolved.bind
      intro resolution
      cases resolution with
      | linked token =>
        have labelled : (label b token.metadata.name).Asks (Requests k) := by
          unfold label
          split
          · exact asks_pure _
          · exact asks_bindings (.label _)
        exact labelled.bind fun b => write b _
      | failed reason message => exact write b _

/-- What a pass over a data update asks for. -/
inductive UpdateDesk.Requests (d : UpdateDesk) (k : Key) : Request → Prop where
  | read : Requests d k (.updates (.get k))
  | enqueue (token : Key) : Requests d k (.enqueue d.tokenQueue token)
  | delete : Requests d k (.updates (.delete k))

theorem UpdateDesk.asks_pass (d : UpdateDesk) (k : Key) : (d.pass k).Asks (d.Requests k) := by
  unfold pass
  apply (asks_updates .read).bind
  intro found
  cases found with
  | none => exact asks_pure _
  | some u =>
    apply (asks_attempt (.enqueue _)).bind
    intro _
    apply (asks_attempt .delete).bind
    intro answer
    split
    · exact asks_pure _
    · split
      · exact asks_pure _
      · exact asks_fail _

end TokenSteward
