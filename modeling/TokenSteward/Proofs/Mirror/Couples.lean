import TokenSteward.Proofs.Cluster.Listing
import TokenSteward.Proofs.Rest.Steady
import TokenSteward.Proofs.Works.Sources

/-! # Bindings and the tokens they are linked to

What the status of a binding should say depends on the binding and on the token that its link names.
As long as neither changes, a pass over the binding can only end in two ways: the status mirrors the
token, or the pass fails and is worth another try. And who gathers the keys of those that depend on
the token gathers the binding's.
-/

namespace TokenSteward

open TokenSteward.Cluster TokenSteward.Resource TokenSteward.Controller Pass

namespace Cluster

/-- The binding at a key, with the token that its link names. -/
def couple (c : Cluster) (k : Key) : Option (Binding × Option AccessToken) :=
  (c.bindings.get? k).map fun b => (b, (Binding.linkedKey? b).bind c.tokens.get?)

variable {c c' : Cluster} {k : Key} {b : Binding} {t : AccessToken}

theorem couple_eq_some : c.couple k = some (b, some t) ↔
    c.bindings.get? k = some b ∧ ∃ j, Binding.linkedKey? b = some j ∧ c.tokens.get? j = some t := by
  constructor
  · intro same
    obtain ⟨b', stored, pair⟩ := Option.map_eq_some_iff.mp same
    obtain ⟨rfl, found⟩ := Prod.mk.inj pair
    exact ⟨stored, Option.bind_eq_some_iff.mp found⟩
  · rintro ⟨stored, j, link, found⟩
    rw [couple, stored, Option.map_some, link, Option.bind_some, found]

theorem binding_of_couple (same : c'.couple k = c.couple k) :
    c'.bindings.get? k = c.bindings.get? k := by
  have first := congrArg (Option.map Prod.fst) same
  simpa [couple, Function.comp_def] using first

/-- If a couple is not the same, the binding has changed, or the token that it is linked to. -/
theorem differs_of_couple (differs : c'.couple k ≠ c.couple k) :
    c'.bindings.get? k ≠ c.bindings.get? k ∨ ∃ b j, c'.bindings.get? k = some b ∧
      Binding.linkedKey? b = some j ∧ c'.tokens.get? j ≠ c.tokens.get? j := by
  by_cases same : c'.bindings.get? k = c.bindings.get? k
  swap
  · exact .inl same
  right
  unfold couple at differs
  rw [← same] at differs
  cases stored : c'.bindings.get? k with
  | none => simp [stored] at differs
  | some b =>
    cases link : Binding.linkedKey? b with
    | none => simp [stored, link] at differs
    | some j => exact ⟨b, j, rfl, link, fun equal => differs (by simp [stored, link, equal])⟩

end Cluster

namespace BindingDesk

/-- The status of a binding of a known provider says how far the token has come that the binding is
linked to, unless the binding is to be deleted. -/
def Mirrors (d : BindingDesk) (v : Option (Binding × Option AccessToken)) : Prop :=
  ∀ b t, v = some (b, some t) → b.isDeleting = false →
    (d.registry.forUrl? b.spec.repoUrl).isSome = true →
    b.status = .linked t.metadata.name (t.status.phase == .ready)

/-- How a pass ends: the status is the one that it should be, or another try is worth it. -/
def Reflects (d : BindingDesk) (v : Option (Binding × Option AccessToken)) :
    Except Failure Action → Prop
  | .ok _ => d.Mirrors v
  | .error f => d.Mirrors v ∨ f.isRetryable = true ∧ ∀ t, f ≠ .cancelled t

/-- What is known while nothing changes a binding or the token that it is linked to. -/
def lasting (k : Key) (v : Option (Binding × Option AccessToken)) : Discipline Unit where
  allows _ _ := True
  leads _ r answer _ := ∃ (c : Cluster) (x : Chance), c.Sound ∧ c.couple k = v ∧
    (c.answer x r).2.couple k = v ∧ answer = (c.answer x r).1

variable {d : BindingDesk} {k j : Key} {b : Binding} {t : AccessToken}
  {v : Option (Binding × Option AccessToken)}

/-- If a status does not mirror a token, there is one that the binding is linked to. -/
theorem exists_of_not_mirrors (other : ¬ d.Mirrors v) : ∃ b t, v = some (b, some t) := by
  simp only [Mirrors, not_forall] at other
  obtain ⟨b, t, same, _⟩ := other
  exact ⟨b, t, same⟩

theorem reflects_store (f : StoreFailure) : d.Reflects v (.error (.store f)) :=
  .inr ⟨rfl, fun _ same => nomatch same⟩

/-- The token that a binding is linked to is the one that a pass goes by. -/
theorem resolves_lasting (known : (d.registry.forUrl? b.spec.repoUrl).isSome = true)
    (link : Binding.linkedKey? b = some j) :
    (d.resolve b).Obeys (lasting k (some (b, some t)))
      (fun _ result => result = .ok (.linked t) ∨ ∃ f, result = .error (.store f)) () := by
  obtain ⟨s, known⟩ := Option.isSome_iff_exists.mp known
  rw [resolve, known, currentToken, link]
  refine obeys_bind.mpr (obeys_tokens.mpr ⟨trivial, ?_⟩)
  rintro found _ ⟨c, x, -, here, -, said⟩
  cases found with
  | error f => exact .inr ⟨f, rfl⟩
  | ok found =>
    obtain ⟨_, j', link', stored⟩ := couple_eq_some.mp here
    obtain rfl := Option.some.inj (link.symm.trans link')
    obtain rfl : found = some t := (token_of_read said).symm.trans stored
    exact .inl rfl

/-- A pass that has another status to write changes the binding by writing it. -/
theorem reflects_write {status : BindingStatus} (key : b.key = k)
    (mirrors : status = b.status → d.Mirrors (some (b, some t))) :
    Obeys (lasting k (some (b, some t))) (fun _ => d.Reflects (some (b, some t))) ()
      (if status ≠ b.status then
        (Pass.bindings (.updateStatus { b with status := status }) >>= fun _ => pure Action.await)
        else pure .await) := by
  split
  · next differs =>
    refine obeys_bind.mpr (obeys_bindings.mpr ⟨trivial, ?_⟩)
    rintro written _ ⟨c, x, sound, here, still, said⟩
    rcases c.answer_bindings_cases x (.updateStatus { b with status := status }) with
      ⟨f, failed⟩ | ⟨answered, served⟩
    · rw [said, failed]
      exact reflects_store f
    · cases written with
      | error f => exact reflects_store f
      | ok w =>
        have stored := (couple_eq_some.mp here).1
        have same := (couple_eq_some.mp still).1
        rw [served] at same
        subst key
        exact absurd (same.trans stored.symm) (sound.bindings.changed_of_updateStatus stored
          (Ne.symm differs) (said.trans answered).symm)
  · next same => exact mirrors (by simpa using same)

/-- While neither a binding nor its token changes, a pass over the binding can only find that the
status mirrors the token, or fail and be worth another try. -/
theorem reflects_pass : (d.pass k).Obeys (lasting k v) (fun _ => d.Reflects v) () := by
  by_cases mirrors : d.Mirrors v
  · refine obeys_of_forall (fun _ _ => trivial) (fun _ result => ?_) _ ()
    cases result with
    | ok a => exact mirrors
    | error f => exact .inl mirrors
  simp only [Mirrors, not_forall] at mirrors
  obtain ⟨b, t, rfl, alive, known, _⟩ := mirrors
  unfold BindingDesk.pass
  refine obeys_bind.mpr (obeys_bindings.mpr ⟨trivial, ?_⟩)
  rintro found _ ⟨c, x, sound, here, -, said⟩
  cases found with
  | error f => exact reflects_store f
  | ok found =>
    obtain ⟨stored, j, link, there⟩ := couple_eq_some.mp here
    obtain rfl : found = some b := (binding_of_read said).symm.trans stored
    have key : b.key = k := sound.bindings.filed stored
    have label : Binding.linkedToken? b = some t.metadata.name := by
      obtain ⟨name, named, rfl⟩ := Option.map_eq_some_iff.mp link
      exact named.trans (congrArg (some ·.name) (sound.tokens.filed there).symm)
    change Obeys _ _ _ (if b.isDeleting = true then pure Action.await else _)
    rw [if_neg (by simp [alive])]
    refine obeys_bind.mpr ((resolves_lasting known link).mono fun _ result resolved => ?_)
    rcases resolved with rfl | ⟨f, rfl⟩
    · change Obeys _ _ _ (BindingDesk.label b t.metadata.name >>= _)
      -- the token was found by the link, so the link is not written again
      rw [BindingDesk.label, if_pos label]
      apply reflects_write key
      rintro same _ _ ⟨⟩ _ _
      exact same.symm
    · exact reflects_store f

end BindingDesk

namespace Controller

/-! ## Who gathers the keys of those that depend on a token -/

/-- What is known while listings are answered and nothing changes a binding or the token that it is
linked to. -/
def listing (k : Key) (v : Option (Binding × Option AccessToken)) : Discipline Unit where
  allows _ _ := True
  leads _ r answer _ := ∃ (c : Cluster) (x : Chance), c.Sound ∧ x.refusal = none ∧ c.couple k = v ∧
    answer = (c.answer x r).1

/-- Keys are gathered, and among them is a certain one if there is a reason. -/
def Gains (k : Key) (reason : Prop) : Except Failure (List Key) → Prop
  | .ok keys => reason → k ∈ keys
  | .error _ => False

variable {k j : Key} {b : Binding} {t : AccessToken}

/-- A binding is among those that depend on the token that it is linked to. -/
theorem gains_dependentKeys (i : Key) (link : Binding.linkedKey? b = some j) :
    (dependentKeys i).Obeys (listing k (some (b, some t))) (fun _ => Gains k (i = j)) () := by
  refine obeys_bind.mpr (obeys_attempt.mpr ⟨trivial, ?_⟩)
  rintro _ _ ⟨c, x, sound, calm, here, rfl⟩
  simp only [Cluster.answer, calm, Store.perform]
  rintro rfl
  have stored := (couple_eq_some.mp here).1
  obtain ⟨name, named, rfl⟩ := Option.map_eq_some_iff.mp link
  have label : b.metadata.labels.get? linkLabel = some name := (Option.filter_eq_some_iff.mp named).1
  refine List.mem_map.mpr ⟨b, Store.mem_list.mpr ⟨⟨k, stored⟩, ?_, selects_only.mpr label⟩,
    sound.bindings.filed stored⟩
  exact fun space same => Option.some.inj same

/-- Who takes each of some changes of tokens as one of those that depend on it gathers the binding's
key if one of the changes is about its token. -/
theorem gains_allKeys (changes : List Change) (link : Binding.linkedKey? b = some j) :
    (Mapper.dependents.allKeys changes).Obeys (listing k (some (b, some t)))
      (fun _ => Gains k (∃ e, .token e ∈ changes ∧ e.object.key = j)) () := by
  induction changes with
  | nil =>
    rintro ⟨e, none, _⟩
    exact (List.not_mem_nil none).elim
  | cons e rest ih =>
    have first : (Mapper.dependents.keys e).Obeys (listing k (some (b, some t)))
        (fun _ => Gains k (∃ e', e = .token e' ∧ e'.object.key = j)) () := by
      cases e with
      | token e =>
        refine (gains_dependentKeys e.object.key link).mono fun _ result gains => ?_
        cases result with
        | error f => exact gains
        | ok keys =>
          rintro ⟨_, ⟨⟩, about⟩
          exact gains about
      | binding e => exact fun ⟨_, other, _⟩ => nomatch other
      | update e => exact fun ⟨_, other, _⟩ => nomatch other
    refine obeys_bind.mpr (first.mono fun _ result gains => ?_)
    cases result with
    | error f => exact gains
    | ok keys =>
      refine obeys_bind.mpr (ih.mono fun _ result later => ?_)
      cases result with
      | error f => exact later
      | ok more =>
        rintro ⟨e', among, about⟩
        rcases List.mem_cons.mp among with same | among
        · exact List.mem_append_left _ (gains ⟨e', same.symm, about⟩)
        · exact List.mem_append_right _ (later ⟨e', among, about⟩)

/-- Who has missed changes of tokens gathers the keys of all bindings that are linked to one. -/
theorem gains_relist :
    (Watch.relist ⟨.tokens, .dependents⟩).Obeys (listing k (some (b, some t)))
      (fun _ => Gains k True) () := by
  refine obeys_bind.mpr (obeys_bind.mpr (obeys_attempt.mpr ⟨trivial, ?_⟩))
  rintro _ _ ⟨c, x, sound, calm, here, rfl⟩
  obtain ⟨_, j, link, found⟩ := couple_eq_some.mp here
  simp only [Cluster.answer, calm, Store.perform]
  apply (gains_allKeys _ link).mono
  intro _ result gains
  cases result with
  | error f => exact gains
  | ok keys =>
    have listed : t ∈ c.tokens.list none Selector.everything := Store.mem_list_everything found
    intro _
    exact gains ⟨_, List.mem_map_of_mem listed, sound.tokens.filed found⟩

end Controller

end TokenSteward
