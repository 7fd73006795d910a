import TokenSteward.Pass.Update
import TokenSteward.Proofs.Cluster.Chances
import TokenSteward.Proofs.Pass.Requests

/-! # How a data update is consumed

A pass over a data update reads it, tells the tokens' queue of its token, and only then deletes it.
As long as nobody else deletes or rewrites data updates, it is there until then and names the same
token.
-/

namespace TokenSteward

open TokenSteward.Cluster TokenSteward.Resource

/-- A data update that names a token lies at a key. -/
def Cluster.Names (c : Cluster) (k token : Key) : Prop :=
  ∃ u, c.updates.get? k = some u ∧ DataUpdate.token u = token

/-- A request that leaves a data update and the token that it names. -/
def SparesUpdate (k : Key) (r : Request) : Prop :=
  r ≠ .updates (.delete k) ∧ ∀ o, r ≠ .updates (.update o)

/-- A data update that a request leaves alone stays as it is. -/
theorem Cluster.update_stays {c : Cluster} {k : Key} {u : DataUpdate}
    (here : c.updates.get? k = some u) (sound : c.Sound) (x : Chance) {r : Request}
    (spares : SparesUpdate k r) : (c.answer x r).2.updates.get? k = some u := by
  by_cases updates : ∃ s, r = .updates s
  · obtain ⟨s, rfl⟩ := updates
    rcases Cluster.answer_updates_cases c x s with ⟨f, failed⟩ | ⟨_, served⟩
    · rwa [failed]
    · have fate := sound.updates.fate c.now k s
      rw [← served] at fate
      generalize (c.answer x (.updates s)).2.updates.get? k = found at fate
      cases fate with
      | same => exact here
      | created o name absent =>
        rw [here] at absent
        contradiction
      | updated o => exact absurd rfl (spares.2 o)
      | ended o => exact absurd rfl (spares.2 o)
      | restated o stored _ _ _ differs => exact absurd rfl differs
      | dropped => exact absurd rfl spares.1
      | marked => exact absurd rfl spares.1
  · rwa [Cluster.updates_answer c x r fun s same => updates ⟨s, same⟩]

theorem Cluster.Names.answer {c : Cluster} {k token : Key} (names : c.Names k token) (sound : c.Sound)
    (x : Chance) {r : Request} (spares : SparesUpdate k r) : (c.answer x r).2.Names k token := by
  obtain ⟨u, here, about⟩ := names
  exact ⟨u, c.update_stays here sound x spares, about⟩

namespace UpdateDesk

variable (d : UpdateDesk) (k : Key)

/-- The end of a pass over a data update. -/
def closing : Pass Action :=
  .ask (.updates (.delete k)) fun
    | .ok () => .done .await
    | .error f => if f.isNotFound then .done .await else .fail (.store f)

/-- A pass over a data update that has read it. -/
def telling (token : Key) : Pass Action := .ask (.enqueue d.tokenQueue token) fun _ => closing k

theorem pass_eq : d.pass k = .ask (.updates (.get k)) (fun
    | .ok none => .done .await
    | .ok (some u) => d.telling k (DataUpdate.token u)
    | .error f => .fail (.store f)) := by
  refine congrArg (Pass.ask _) (funext fun answer => ?_)
  rcases answer with f | _ | u
  · rfl
  · rfl
  · refine congrArg (Pass.ask _) (funext fun _ => congrArg (Pass.ask _) (funext fun answer => ?_))
    cases answer <;> rfl

/-- How far a pass over a data update can have come. -/
inductive Consuming (c : Cluster) : Pass Action → Prop where
  | starts : Consuming c (d.pass k)
  | tells {token : Key} (names : c.Names k token) : Consuming c (d.telling k token)
  | closes {token : Key} (names : c.Names k token) : Consuming c (closing k)
  | done (a : Action) : Consuming c (.done a)
  | failed (f : StoreFailure) : Consuming c (.fail (.store f))

variable {d k} {c : Cluster} {x : Chance}

theorem Consuming.mono {c' : Cluster} {p : Pass Action} (consuming : d.Consuming k c p)
    (kept : ∀ token, c.Names k token → c'.Names k token) : d.Consuming k c' p := by
  cases consuming with
  | starts => exact .starts
  | tells names => exact .tells (kept _ names)
  | closes names => exact .closes (kept _ names)
  | done a => exact .done a
  | failed f => exact .failed f

/-- What a pass over a data update asks for: it deletes no other. -/
theorem Consuming.asks {r : Request} {next : r.Answer → Pass Action}
    (consuming : d.Consuming k c (.ask r next)) : d.Requests k r := by
  generalize asks : Pass.ask r next = p at consuming
  cases consuming with
  | starts =>
    rw [pass_eq] at asks
    cases asks
    exact .read
  | tells names =>
    cases asks
    exact .enqueue _
  | closes names =>
    cases asks
    exact .delete
  | done a => cases asks
  | failed f => cases asks

/-- Before its end a pass over a data update deletes none, and it never deletes another. -/
theorem Consuming.spares {r : Request} {next : r.Answer → Pass Action}
    (consuming : d.Consuming k c (.ask r next)) {j : Key}
    (other : k = j → Pass.ask r next ≠ closing k) : SparesUpdate j r := by
  generalize asks : Pass.ask r next = p at consuming other
  cases consuming with
  | starts =>
    rw [pass_eq] at asks
    cases asks
    exact ⟨by simp, by simp⟩
  | tells names =>
    cases asks
    exact ⟨by simp, by simp⟩
  | closes names =>
    cases asks
    have apart : k ≠ j := fun same => other same rfl
    exact ⟨by simp [apart], by simp⟩
  | done a => cases asks
  | failed f => cases asks

/-- Whatever is answered, a pass over a data update goes on as it should. -/
theorem Consuming.answered {r : Request} {next : r.Answer → Pass Action}
    (consuming : d.Consuming k c (.ask r next)) (other : ∀ q k, r ≠ .enqueue q k) :
    d.Consuming k (c.answer x r).2 (next (c.answer x r).1) := by
  generalize asks : Pass.ask r next = p at consuming
  cases consuming with
  | starts =>
    rw [pass_eq] at asks
    cases asks
    generalize said : (c.answer x (.updates (.get k))).1 = answer
    rcases Cluster.answer_updates_cases c x (.get k) with ⟨f, failed⟩ | ⟨answered, served⟩
    · rw [failed] at said
      subst said
      exact .failed f
    · rcases answer with f | _ | u
      · exact .failed f
      · exact .done .await
      · have stored : c.updates.get? k = some u := Except.ok.inj (answered.symm.trans said)
        exact .tells ⟨u, by rw [served]; exact stored, rfl⟩
  | tells names =>
    cases asks
    exact absurd rfl (other _ _)
  | closes names =>
    cases asks
    generalize (c.answer x (.updates (.delete k))).1 = answer
    rcases answer with f | u
    · change d.Consuming k _ (if f.isNotFound then _ else _)
      split
      · exact .done .await
      · exact .failed f
    · exact .done .await
  | done a => cases asks
  | failed f => cases asks

/-- A pass that tells the tokens' queue of a token has read a data update that names it. -/
theorem Consuming.told {q : Nat} {token : Key} {next : (Request.enqueue q token).Answer → Pass Action}
    (consuming : d.Consuming k c (.ask (.enqueue q token) next)) :
    q = d.tokenQueue ∧ c.Names k token ∧ next () = closing k := by
  generalize asks : Pass.ask (.enqueue q token) next = p at consuming
  cases consuming with
  | starts =>
    rw [pass_eq] at asks
    cases asks
  | tells names =>
    cases asks
    exact ⟨rfl, names, rfl⟩
  | closes names => cases asks
  | done a => cases asks
  | failed f => cases asks

/-- A pass over a data update never rests. -/
theorem Consuming.unrested {span : Time.Span} {next : (Request.pause span).Answer → Pass Action} :
    ¬ d.Consuming k c (.ask (.pause span) next) := by
  intro consuming
  cases consuming.asks

variable (d k) in
/-- A pass over a data update that has still to tell of the token, or has failed before it did. -/
inductive Early (token : Key) : Pass Action → Prop where
  | starts : Early token (d.pass k)
  | tells : Early token (d.telling k token)
  | failed (f : StoreFailure) : Early token (.fail (.store f))

theorem Early.answered {token : Key} {r : Request} {next : r.Answer → Pass Action}
    (early : d.Early k token (.ask r next)) (names : c.Names k token)
    (other : ∀ q k, r ≠ .enqueue q k) : d.Early k token (next (c.answer x r).1) := by
  generalize asks : Pass.ask r next = p at early
  cases early with
  | starts =>
    rw [pass_eq] at asks
    cases asks
    generalize said : (c.answer x (.updates (.get k))).1 = answer
    obtain ⟨u, here, rfl⟩ := names
    rcases Cluster.answer_updates_cases c x (.get k) with ⟨f, failed⟩ | ⟨answered, _⟩
    · rw [failed] at said
      subst said
      exact .failed f
    · have read : (.ok (c.updates.get? k) : Except StoreFailure (Option DataUpdate)) = answer :=
        answered.symm.trans said
      subst read
      rw [here]
      exact .tells
  | tells =>
    cases asks
    exact absurd rfl (other _ _)
  | failed f => cases asks

/-- The end of a pass is not reached but by telling. -/
theorem Consuming.answered_ne_closing {r : Request} {next : r.Answer → Pass Action}
    (consuming : d.Consuming k c (.ask r next)) (other : ∀ q k, r ≠ .enqueue q k) (a : r.Answer) :
    next a ≠ closing k := by
  generalize asks : Pass.ask r next = p at consuming
  cases consuming with
  | starts =>
    rw [pass_eq] at asks
    cases asks
    rcases a with f | _ | u <;> exact fun same => by cases same
  | tells names =>
    cases asks
    exact absurd rfl (other _ _)
  | closes names =>
    cases asks
    rcases a with f | u
    · change (if f.isNotFound then Pass.done Action.await else _) ≠ _
      split <;> exact fun same => by cases same
    · exact fun same => by cases same
  | done a => cases asks
  | failed f => cases asks

theorem pass_ne_closing : d.pass k ≠ closing k := by
  rw [pass_eq]
  exact fun same => by cases same

end UpdateDesk

end TokenSteward
