import TokenSteward.Pass.Announced
import TokenSteward.Proofs.Rest.Consuming
import TokenSteward.Proofs.Rest.Tidy

/-! # Writers of announced records

A writer changes what the status of a token depends on only by the record of that token, and then it
has still to announce this. Once it has, a data update names the token, at a key where there was none.
-/

namespace TokenSteward

open TokenSteward.Cluster TokenSteward.Resource TokenSteward.Secret

namespace Announced

theorem announce_eq (owner : AccessToken) :
    announce owner = .ask (.updates (.create (DataUpdate.forToken owner.key))) (fun
      | .ok _ => .done ()
      | .error f => .fail (.vault (.backend ("token data for " ++ owner.key.text
          ++ " changed but the update trigger failed: " ++ f.message)))) := by
  refine congrArg (Pass.ask _) (funext fun answer => ?_)
  cases answer <;> rfl

theorem store_eq (owner : AccessToken) (r : Record) :
    store owner r = .ask (.vault (.store owner r)) (fun
      | .ok () => announce owner
      | .error f => .fail (.vault f)) := by
  refine congrArg (Pass.ask _) (funext fun answer => ?_)
  cases answer <;> rfl

theorem delete_eq (owner : AccessToken) :
    delete owner = .ask (.vault (.delete owner)) (fun
      | .ok () => announce owner
      | .error f => .fail (.vault f)) := by
  refine congrArg (Pass.ask _) (funext fun answer => ?_)
  cases answer <;> rfl

/-- How far a writer can have come. -/
inductive Writing : Pass Unit → Prop where
  | stores (owner : AccessToken) (r : Record) : Writing (store owner r)
  | erases (owner : AccessToken) : Writing (delete owner)
  | announces (owner : AccessToken) : Writing (announce owner)
  | done : Writing (.done ())
  | failed (f : Failure) : Writing (.fail f)

variable {c : Cluster} {x : Chance} {r : Request} {next : r.Answer → Pass Unit}

/-- Whatever is answered, a writer goes on as it should. -/
theorem Writing.answered (writing : Writing (.ask r next)) (answer : r.Answer) :
    Writing (next answer) := by
  generalize asks : Pass.ask r next = p at writing
  cases writing with
  | stores owner r =>
    rw [store_eq] at asks
    cases asks
    rcases answer with f | u
    · exact .failed _
    · exact .announces owner
  | erases owner =>
    rw [delete_eq] at asks
    cases asks
    rcases answer with f | u
    · exact .failed _
    · exact .announces owner
  | announces owner =>
    rw [announce_eq] at asks
    cases asks
    rcases answer with f | u
    · exact .failed _
    · exact .done
  | done => cases asks
  | failed f => cases asks

/-- Writers delete and rewrite no data update. -/
theorem Writing.spares (writing : Writing (.ask r next)) (k : Key) : SparesUpdate k r := by
  generalize asks : Pass.ask r next = p at writing
  cases writing with
  | stores owner r =>
    rw [store_eq] at asks
    cases asks
    exact ⟨by simp, by simp⟩
  | erases owner =>
    rw [delete_eq] at asks
    cases asks
    exact ⟨by simp, by simp⟩
  | announces owner =>
    rw [announce_eq] at asks
    cases asks
    exact ⟨by simp, by simp⟩
  | done => cases asks
  | failed f => cases asks

/-- Writers leave tokens alone. -/
theorem Writing.tokens (writing : Writing (.ask r next)) :
    (c.answer x r).2.tokens = c.tokens := by
  generalize asks : Pass.ask r next = p at writing
  apply Cluster.tokens_answer c x r
  intro s same
  subst same
  cases writing with
  | stores owner r =>
    rw [store_eq] at asks
    cases asks
  | erases owner =>
    rw [delete_eq] at asks
    cases asks
  | announces owner =>
    rw [announce_eq] at asks
    cases asks
  | done => cases asks
  | failed f => cases asks

/-- The record of an owner is that of a token only if it has the key of the token. -/
theorem key_of_owner {owner : AccessToken} {t : AccessToken}
    (same : VaultKey.ofOwner owner = VaultKey.ofOwner t) : owner.key = t.key := by
  have space : owner.metadata.space = t.metadata.space := congrArg VaultKey.space same
  have name : owner.metadata.name = t.metadata.name := congrArg VaultKey.name same
  simp only [Object.key, Metadata.key, space, name]

/-- A written record changes the view of no token but that of its owner. -/
theorem view_of_record (sound : c.Sound) (owner : AccessToken) {c' : Cluster} {k : Key}
    (tokens : c'.tokens = c.tokens) (others : ∀ j, VaultKey.ofOwner owner ≠ j →
      c'.vault.get? j = c.vault.get? j) (other : owner.key ≠ k) : c'.view k = c.view k := by
  refine Cluster.view_of_tokens (by rw [tokens]) fun t stored _ => others _ fun same => other ?_
  rw [key_of_owner same]
  exact sound.tokens.filed stored

/-- A writer leaves the view of a token as it is, or has to announce its record then. -/
theorem Writing.view (writing : Writing (.ask r next)) (sound : c.Sound) (k : Key) :
    (c.answer x r).2.view k = c.view k ∨
      ∃ owner, owner.key = k ∧ next (c.answer x r).1 = announce owner := by
  have tokens : (c.answer x r).2.tokens = c.tokens := writing.tokens
  generalize asks : Pass.ask r next = p at writing
  cases writing with
  | stores owner record =>
    rw [store_eq] at asks
    cases asks
    by_cases mine : owner.key = k
    · cases failed : x.outage with
      | some f => exact .inl (by simp only [Cluster.answer, failed])
      | none => exact .inr ⟨owner, mine, by simp only [Cluster.answer, failed, performVault]⟩
    · refine .inl (view_of_record sound owner tokens (fun j apart => ?_) mine)
      simp only [Cluster.answer]
      split
      · rfl
      · exact Table.get?_insert_of_ne _ _ apart
  | erases owner =>
    rw [delete_eq] at asks
    cases asks
    by_cases mine : owner.key = k
    · cases failed : x.outage with
      | some f => exact .inl (by simp only [Cluster.answer, failed])
      | none => exact .inr ⟨owner, mine, by simp only [Cluster.answer, failed, performVault]⟩
    · refine .inl (view_of_record sound owner tokens (fun j apart => ?_) mine)
      simp only [Cluster.answer]
      split
      · rfl
      · exact Table.get?_erase_of_ne _ apart
  | announces owner =>
    rw [announce_eq] at asks
    cases asks
    exact .inl (Cluster.view_answer x (by simp) (by rw [tokens]))
  | done => cases asks
  | failed f => cases asks

/-- A writer that announces fails, or leaves a data update that names the token. -/
theorem announced {owner : AccessToken} (announces : .ask r next = announce owner) :
    (∃ f, next (c.answer x r).1 = .fail f) ∨
      ∃ k, c.updates.get? k = none ∧ (c.answer x r).2.Names k owner.key := by
  rw [announce_eq] at announces
  cases announces
  rcases Cluster.answer_updates_cases c x (.create (DataUpdate.forToken owner.key)) with
    ⟨f, failed⟩ | ⟨answered, served⟩
  · exact .inl ⟨_, by rw [failed]⟩
  · rcases c.updates.create_cases c.now (DataUpdate.forToken owner.key) with
      ⟨f, failed⟩ | ⟨name, s', made, absent, wrote⟩
    · refine .inl ?_
      have said : (c.updates.perform c.now (.create (DataUpdate.forToken owner.key))).1 = .error f :=
        congrArg Prod.fst failed
      exact ⟨_, by rw [answered, said]⟩
    · refine .inr ⟨_, absent, c.updates.born c.now (DataUpdate.forToken owner.key) name, ?_, rfl⟩
      have there : (c.updates.perform c.now (.create (DataUpdate.forToken owner.key))).2 = s' :=
        congrArg Prod.snd made
      rw [served, there]
      exact wrote.get?_self

end Announced

end TokenSteward
