import TokenSteward.Proofs.Cluster.Chances
import TokenSteward.Proofs.Cluster.Copies
import TokenSteward.Proofs.Pass.Requests

/-! # Where statuses come from

A store has no statuses of its own: the status of an object is carried over as a whole, or a request has
brought it as a whole. So what holds of all statuses that are stored, and of those that requests bring,
holds of all that are stored later, and of all that are shown to clients. A pass comes to few statuses:
without a link, or with the link from before, or with a new one.
-/

namespace TokenSteward

open TokenSteward.Resource TokenSteward.Provider TokenSteward.OAuth Pass

namespace Cluster

/-- The status that a request brings into a store. -/
def StoreRequest.brings? {σ τ : Type} : StoreRequest σ τ → Option τ
  | .create o => some o.status
  | .updateStatus o => some o.status
  | _ => none

/-- The status that a request brings into the tokens' store. -/
def Request.brings? : Request → Option TokenStatus
  | .tokens r => r.brings?
  | _ => none

/-- The tokens in the answer to a request. -/
def Request.shown : (r : Request) → r.Answer → List AccessToken
  | .tokens r, answer => r.shown answer
  | _, _ => []

namespace Store

variable {σ τ : Type} [DecidableEq τ] {s : Store σ τ} {P : τ → Prop} {now : Timestamp}
  {r : StoreRequest σ τ}

/-- What holds of all stored statuses and of the one that a request brings holds of all that are stored
then. -/
theorem status_of_stored (all : ∀ k o, s.get? k = some o → P o.status) (sound : s.Sound)
    (brings : ∀ status ∈ r.brings?, P status) {k : Key} {o : Object σ τ}
    (stored : (s.perform now r).2.get? k = some o) : P o.status := by
  have fate := sound.fate now k r
  rw [stored] at fate
  generalize same : some o = found at fate
  cases fate with
  | same r => exact all k o same.symm
  | created made name absent =>
    obtain rfl := Option.some.inj same
    exact brings _ rfl
  | updated incoming old key found standing held =>
    obtain rfl := Option.some.inj same
    exact all k old found
  | restated incoming old key found standing differs =>
    obtain rfl := Option.some.inj same
    exact brings _ rfl
  | marked old found guarded alive =>
    obtain rfl := Option.some.inj same
    exact all k old found
  | ended => contradiction
  | dropped => contradiction

/-- It holds of all that the answer shows. -/
theorem status_of_shown (all : ∀ k o, s.get? k = some o → P o.status)
    (brings : ∀ status ∈ r.brings?, P status) {o : Object σ τ}
    (among : o ∈ r.shown (s.perform now r).1) : P o.status := by
  cases r with
  | get k => exact all k o (Option.mem_toList.mp among)
  | list space wanted =>
    obtain ⟨k, stored⟩ := (mem_list.mp among).1
    exact all k o stored
  | create made =>
    change o ∈ (StoreRequest.create made).shown (s.create now made).1 at among
    rcases create_cases s now made with ⟨f, failed⟩ | ⟨name, s', done, _⟩
    · rw [failed] at among
      contradiction
    · rw [done] at among
      obtain rfl := List.mem_singleton.mp among
      exact brings _ rfl
  | update incoming =>
    change o ∈ (StoreRequest.update incoming).shown (s.update incoming).1 at among
    rcases update_cases s incoming with ⟨f, failed⟩ | ⟨old, found, _, ⟨_, _, gone⟩ | ⟨_, written⟩⟩
    · rw [failed] at among
      contradiction
    · rw [gone] at among
      obtain rfl := List.mem_singleton.mp among
      exact all _ old found
    · rw [written] at among
      obtain rfl := List.mem_singleton.mp among
      exact all _ old found
  | updateStatus incoming =>
    change o ∈ (StoreRequest.updateStatus incoming).shown (s.updateStatus incoming).1 at among
    rcases updateStatus_cases s incoming with ⟨f, failed⟩ | ⟨old, found, _, ⟨_, same⟩ | ⟨_, written⟩⟩
    · rw [failed] at among
      contradiction
    · rw [same] at among
      obtain rfl := List.mem_singleton.mp among
      exact all _ o found
    · rw [written] at among
      obtain rfl := List.mem_singleton.mp among
      exact brings _ rfl
  | delete k =>
    change o ∈ (StoreRequest.delete k).shown (s.delete now k).1 at among
    rcases delete_cases s now k with ⟨f, failed⟩ | ⟨old, _, ⟨_, gone⟩ | ⟨_, ⟨_, same⟩ | ⟨_, written⟩⟩⟩
    · rw [failed] at among
      contradiction
    · rw [gone] at among
      contradiction
    · rw [same] at among
      contradiction
    · rw [written] at among
      contradiction

end Store

/-- All stored tokens have statuses of a kind. -/
def AllStatuses (P : TokenStatus → Prop) (c : Cluster) : Prop :=
  ∀ k t, c.tokens.get? k = some t → P t.status

variable {c : Cluster} {P : TokenStatus → Prop} {r : Request}

/-- The statuses stay of a kind if a request brings no other. -/
theorem AllStatuses.answer (all : c.AllStatuses P) (sound : c.Sound) (x : Chance)
    (brings : ∀ status ∈ r.brings?, P status) : (c.answer x r).2.AllStatuses P := by
  intro k t stored
  by_cases tokens : ∃ q, r = .tokens q
  · obtain ⟨q, rfl⟩ := tokens
    rcases answer_tokens_cases c x q with ⟨f, failed⟩ | ⟨_, served⟩
    · rw [failed] at stored
      exact all k t stored
    · rw [served] at stored
      exact Store.status_of_stored all sound.tokens brings stored
  · rw [tokens_answer c x r fun q same => tokens ⟨q, same⟩] at stored
    exact all k t stored

/-- Those in the answer are of the kind, too. -/
theorem AllStatuses.shown (all : c.AllStatuses P) (x : Chance) (brings : ∀ status ∈ r.brings?, P status)
    {t : AccessToken} (among : t ∈ r.shown (c.answer x r).1) : P t.status := by
  cases r with
  | tokens q =>
    change t ∈ q.shown (c.answer x (.tokens q)).1 at among
    rcases answer_tokens_cases c x q with ⟨f, failed⟩ | ⟨answered, _⟩
    · rw [failed] at among
      cases q <;> contradiction
    · rw [answered] at among
      exact Store.status_of_shown all brings among
  | _ => contradiction

end Cluster

namespace TokenDesk

/-- The statuses without a link that a pass may come to. -/
inductive Linkless : TokenStatus → Prop where
  | failed (reason : TokenReason) (message : String) : Linkless (.failed reason message)
  | invalid (reason : TokenReason) (message : String) : Linkless (.invalid reason message)
  | ready (holder : Holder) : Linkless (.ready holder)
  | awaiting : Linkless (.awaiting "")

/-- What holds of all statuses without a link, of the one with the link from before and of those with a
new link holds of the status that a pass comes to, whatever it is answered. -/
theorem obeys_status {κ : Type} {rule : Discipline κ} (P : κ → TokenStatus → Prop) (kept : κ → Prop)
    (d : TokenDesk) (t : AccessToken) (allows : ∀ known r, Looks r → rule.allows known r)
    (stays : ∀ known r answer later, kept known → rule.leads known r answer later → kept later)
    (linkless : ∀ known s, Linkless s → P known s)
    (keeps : ∀ known, kept known → P known (.awaiting t.status.link))
    (makes : ∀ b known now later s, d.links = some b → rule.leads known .clock now later →
      P later (.awaiting (String.ofList (b.link (LinkState.dated s now))))) {known : κ}
    (begins : kept known) :
    (d.desiredStatus t).Obeys rule (fun known result => ∀ s, result = .ok s → P known s) known := by
  have ends {known : κ} {s : TokenStatus} (fits : P known s) :
      ∀ s', (.ok s : Except Failure TokenStatus) = .ok s' → P known s' := by
    rintro _ ⟨⟩
    exact fits
  unfold desiredStatus
  split
  · exact ends (linkless _ _ (.failed _ _))
  · next s _ =>
    refine obeys_bind.mpr (obeys_vault.mpr ⟨allows _ _ (.record _), fun found now leads => ?_⟩)
    have still : kept now := stays _ _ _ _ begins leads
    rcases found with f | _ | r
    · exact fun s failed => by contradiction
    · change Obeys rule _ _ (d.awaitingStatus t s)
      unfold awaitingStatus
      split
      · exact ends (linkless _ _ .awaiting)
      · next b links =>
        dsimp only
        split
        · exact ends (keeps _ still)
        · refine obeys_bind.mpr (obeys_attempt.mpr ⟨allows _ _ .clock, fun told later leads => ?_⟩)
          exact ends (makes b _ told _ _ links leads)
    · refine obeys_bind.mpr (obeys_provider.mpr ⟨allows _ _ (.provider _ _), fun found _ _ => ?_⟩)
      cases found with
      | error f => exact fun s failed => by contradiction
      | ok validation =>
        change Obeys rule _ _ (if _ then _ else _)
        split
        · exact ends (linkless _ _ (.invalid _ _))
        · refine obeys_bind.mpr (obeys_attempt.mpr ⟨allows _ _ (.provider _ _), fun found _ _ => ?_⟩)
          cases found with
          | ok holder => exact ends (linkless _ _ (.ready holder))
          | error f =>
            change Obeys rule _ _ (if f.isRefusal = true then _ else _)
            split
            · exact ends (linkless _ _ (.invalid _ _))
            · exact fun s failed => by contradiction

end TokenDesk

end TokenSteward
