import TokenSteward.Proofs.Cluster.Identities
import TokenSteward.Proofs.Pass.Requests
import TokenSteward.Proofs.Rest.Steady

/-! # Tidy passes

A pass over a token stores no record, and deletes one only if it belongs to a token whose deletion is
requested. So what the status of a token depends on is changed by passes only together with the token
itself.
-/

namespace TokenSteward

open TokenSteward.Cluster TokenSteward.Resource TokenSteward.Secret TokenSteward.Provider Pass

/-- What a pass over a token may ask for: it deletes only the record of a token that it has read with
its deletion requested, known by key and uid. -/
def tidy : Discipline (Option (Key × String)) where
  allows known
    | .vault (.store _ _) => False
    | .vault (.delete owner) => known = some (owner.key, owner.metadata.uid)
    | .updates _ => False
    | .enqueue _ _ => False
    | _ => True
  leads known r answer later := later = match r, answer with
    | .tokens (.get _), .ok (some t) => if t.isDeleting then some (t.key, t.metadata.uid) else known
    | _, _ => known

/-- The token that is known is doomed. -/
def Cluster.Dooms (c : Cluster) (known : Option (Key × String)) : Prop :=
  ∀ k uid, known = some (k, uid) → c.tokens.Doomed k uid

/-- A pass obeys a discipline if its requests are allowed and nothing new is learnt from them. -/
theorem Pass.Asks.obeys_still {κ α : Type} {d : Discipline κ} {kind : Request → Prop} {p : Pass α}
    (asks : p.Asks kind) {known : κ} (allowed : ∀ r, kind r → d.allows known r)
    (still : ∀ r answer later, kind r → d.leads known r answer later → later = known) :
    p.Obeys d (fun _ _ => True) known := by
  induction p with
  | done a => trivial
  | fail f => trivial
  | ask r next ih =>
    refine ⟨allowed r asks.1, ?_⟩
    intro answer later leads
    obtain rfl := still r answer later asks.1 leads
    exact ih answer (asks.2 answer () trivial)

namespace TokenDesk

/-- The pass over a token is tidy. -/
theorem tidy_pass (d : TokenDesk) (k : Key) : (d.pass k).Obeys tidy (fun _ _ => True) none := by
  rw [pass_eq]
  refine obeys_bind.mpr (obeys_tokens.mpr ⟨trivial, fun answer known heard => ?_⟩)
  rcases answer with f | _ | t
  · trivial
  · trivial
  · change Obeys tidy (fun _ _ => True) known (if t.isDeleting = true then d.finalize t else _)
    split
    · next deleting =>
      have heard : known = if t.isDeleting then some (t.key, t.metadata.uid) else none := heard
      rw [heard, if_pos deleting]
      refine (d.asks_finalize t).obeys_still (fun r kind => ?_) fun r answer later kind leads => ?_
      · cases kind with
        | holders => trivial
        | cleanup owner key uid => exact congrArg some (Prod.ext key.symm uid.symm)
        | write o => trivial
      · cases kind <;> exact leads
    · have work (t : AccessToken) (known : Option (Key × String)) :
          (d.work t).Obeys tidy (fun _ _ => True) known := by
        refine (d.asks_work t).obeys (fun known r request => ?_) known
        rcases request with looks | ⟨o, rfl⟩
        · cases looks <;> trivial
        · trivial
      split
      · refine obeys_bind.mpr (obeys_tokens.mpr ⟨trivial, fun answer _ _ => ?_⟩)
        cases answer with
        | ok t => exact work t _
        | error f => trivial
      · exact work t _

end TokenDesk

namespace Cluster

variable {c : Cluster} {known : Option (Key × String)}

theorem Dooms.answer (dooms : c.Dooms known) (kept : c.Kept)
    (unique : Function.Injective c.tokens.draws.uid) (x : Chance) (r : Request) :
    (c.answer x r).2.Dooms known := by
  intro k uid same
  by_cases tokens : ∃ s, r = .tokens s
  · obtain ⟨s, rfl⟩ := tokens
    rcases Cluster.answer_tokens_cases c x s with ⟨f, failed⟩ | ⟨_, served⟩
    · rw [failed]
      exact dooms k uid same
    · rw [served]
      exact (dooms k uid same).perform kept.sound.tokens unique _ _
  · rw [tokens_answer c x r fun s same => tokens ⟨s, same⟩]
    exact dooms k uid same

/-- What a tidy pass learns is true. -/
theorem Dooms.learn (dooms : c.Dooms known) (kept : c.Kept)
    (unique : Function.Injective c.tokens.draws.uid) {x : Chance} {r : Request}
    {later : Option (Key × String)} (leads : tidy.leads known r (c.answer x r).1 later) :
    (c.answer x r).2.Dooms later := by
  have old := dooms.answer kept unique x r
  generalize said : (c.answer x r).1 = answer at leads
  have leads : later = _ := leads
  split at leads
  · next k t _ =>
    split at leads
    · next deleting =>
      subst leads
      intro k' uid same
      obtain ⟨rfl, rfl⟩ := Prod.mk.inj (Option.some.inj same)
      rcases Cluster.answer_tokens_cases c x (.get k) with ⟨f, failed⟩ | ⟨answered, served⟩
      · rw [failed] at said
        contradiction
      · have stored : c.tokens.get? k = some t := Except.ok.inj (answered.symm.trans said)
        have key : t.key = k := kept.sound.tokens.filed stored
        rw [served, key]
        exact kept.registered.doomed stored deleting
    · exact leads ▸ old
  · exact leads ▸ old

/-- The view of a token changes with the token, unless its record is written. -/
theorem view_of_tokens {c' : Cluster} {k : Key} (tokens : c'.tokens.get? k = c.tokens.get? k)
    (records : ∀ t, c.tokens.get? k = some t → t.isDeleting = false →
      c'.vault.get? (VaultKey.ofOwner t) = c.vault.get? (VaultKey.ofOwner t)) :
    c'.view k = c.view k := by
  unfold view
  rw [tokens]
  cases stored : c.tokens.get? k with
  | none => rfl
  | some t =>
    cases alive : t.isDeleting with
    | true => simp [alive]
    | false => simp [alive, records t stored alive]

/-- A request that writes no record changes the view of a token only with the token. -/
theorem view_answer (x : Chance) {r : Request} (other : ∀ v, r ≠ .vault v) {k : Key}
    (tokens : (c.answer x r).2.tokens.get? k = c.tokens.get? k) :
    (c.answer x r).2.view k = c.view k :=
  view_of_tokens tokens fun t _ _ => by rw [vault_answer c x r other]

/-- A tidy request changes the view of a token only with the token. -/
theorem Dooms.view_answer (dooms : c.Dooms known) (kept : c.Kept) (x : Chance) {r : Request}
    (allowed : tidy.allows known r) {k : Key}
    (tokens : (c.answer x r).2.tokens.get? k = c.tokens.get? k) :
    (c.answer x r).2.view k = c.view k := by
  apply view_of_tokens tokens
  intro t stored alive
  by_cases vault : ∃ v, r = .vault v
  · obtain ⟨v, rfl⟩ := vault
    cases v with
    | store owner record => exact absurd allowed id
    | get owner =>
      simp only [Cluster.answer]
      split <;> rfl
    | delete owner =>
      have known : known = some (owner.key, owner.metadata.uid) := allowed
      have doomed := dooms _ _ known
      have other : VaultKey.ofOwner owner ≠ VaultKey.ofOwner t := by
        intro same
        have key : owner.key = k := by
          rw [← kept.sound.tokens.filed stored]
          have space : owner.metadata.space = t.metadata.space := congrArg VaultKey.space same
          have name : owner.metadata.name = t.metadata.name := congrArg VaultKey.name same
          simp only [Object.key, Metadata.key, space, name]
        have deleting := doomed.2 (key ▸ stored) (congrArg VaultKey.uid same).symm
        rw [alive] at deleting
        contradiction
      simp only [Cluster.answer]
      split
      · rfl
      · exact Table.get?_erase_of_ne _ other
  · rw [vault_answer c x r fun v same => vault ⟨v, same⟩]

end Cluster

end TokenSteward
