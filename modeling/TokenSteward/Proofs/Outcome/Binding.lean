import TokenSteward.Proofs.Outcome.Token

/-! # How a pass over a binding ends

Only the link and the status of the binding itself are written. The link is written on top of the
copy that was read, which was not marked for deletion, so that write removes nothing and leaves the
status alone.
-/

namespace TokenSteward.BindingDesk

open TokenSteward.Cluster TokenSteward.Resource TokenSteward.Provider Pass

variable (d : BindingDesk) (k : Key)

/-- Requests to others than the bindings' store leave all bindings alone. -/
theorem keeps_other {met : Ground} {c : Chance} {r : Request} (other : ∀ s, r ≠ .bindings s) :
    (Errand.binding d k).Keeps ⟨met, c, r⟩ := by
  simp only [Errand.Keeps, Errand.status?, Exchange.left, Cluster.bindings_answer _ _ _ other]

/-- A request to the bindings that fails has no effect. -/
theorem keeps_of_failed {met : Ground} {c : Chance} {r : StoreRequest BindingSpec BindingStatus}
    {f : StoreFailure}
    (failed : (.error f : (Request.bindings r).Answer) = Exchange.answer ⟨met, c, .bindings r⟩) :
    (Errand.binding d k).Keeps ⟨met, c, .bindings r⟩ := by
  simp only [Errand.Keeps, Errand.status?, Exchange.bindings_failed failed]

/-- How looking for a token ends: a refusal is told by a failed resolution. -/
def Resolved (e : Errand) (past : List Exchange) : Except Failure Resolution → Prop
  | .ok (.linked _) => Course e none past
  | .ok (.failed reason message) => ∃ refused, Course e refused past ∧ ∀ r g,
      refused = some (r, g) → validates r = false ∧ reason = .tokenLookupFailed ∧ message = g.message
  | .error f => Course e none past ∧ f.isRetryable = true

theorem resolved_resolve (b : Binding) {past : List Exchange}
    (course : Course (.binding d k) none past) (fresh : Fresh b past) :
    (d.resolve b).Obeys playing (fun later result => Resolved (.binding d k) later result ∧ Fresh b later)
      past := by
  unfold resolve
  split
  · exact ⟨⟨none, course, fun _ _ none => by contradiction⟩, fresh⟩
  · next s _ =>
    have current : (currentToken b).Obeys playing (fun later result =>
        Course (.binding d k) none later ∧ Fresh b later ∧ ∀ f, result = .error f → f.isRetryable = true)
        past := by
      unfold currentToken
      split
      · exact ⟨course, fresh, fun f failed => by contradiction⟩
      · refine obeys_tokens.mpr ⟨trivial, ?_⟩
        rintro answer later ⟨met, c, follows, said, rfl⟩
        refine ⟨course.snoc (keeps_other d k (by simp)) rfl, fresh.snoc follows c _, ?_⟩
        intro f failed
        cases answer with
        | error g => exact Except.error.inj failed ▸ rfl
        | ok found => contradiction
    refine obeys_bind.mpr (current.mono fun past result ⟨course, fresh, retryable⟩ => ?_)
    rcases result with f | _ | token
    · exact ⟨⟨course, retryable f rfl⟩, fresh⟩
    · apply obeys_bind.mpr
      refine obeys_attempt.mpr ⟨trivial, ?_⟩
      rintro answer later ⟨met, c, follows, said, rfl⟩
      have kept : (Errand.binding d k).Keeps ⟨met, c, .provider s (.lookup b)⟩ :=
        keeps_other d k (by simp)
      have fresh := fresh.snoc follows c (.provider s (.lookup b))
      rcases answer with f | _ | token
      · have refusal := refusal?_of_error said
        change Obeys playing _ _ (if f.isRefusal = true then _ else _)
        split at refusal
        · next refused =>
          rw [if_pos refused]
          refine ⟨⟨_, course.refuse kept refusal, fun r g same => ?_⟩, fresh⟩
          obtain ⟨rfl, rfl⟩ := Prod.mk.inj (Option.some.inj same)
          exact ⟨rfl, rfl, rfl⟩
        · next passing =>
          rw [if_neg passing]
          exact ⟨⟨course.snoc kept refusal, retryable_of_passing passing⟩, fresh⟩
      · have course := course.snoc kept (refusal?_of_ok said)
        apply obeys_bind.mpr
        refine obeys_tokens.mpr ⟨trivial, ?_⟩
        rintro answer later ⟨met, c, follows, _, rfl⟩
        have kept : (Errand.binding d k).Keeps ⟨met, c, .tokens (.create (freshToken b s))⟩ :=
          keeps_other d k (by simp)
        have course := course.snoc kept rfl
        have fresh := fresh.snoc follows c (.tokens (.create (freshToken b s)))
        cases answer with
        | error f => exact ⟨⟨course, rfl⟩, fresh⟩
        | ok token => exact ⟨course, fresh⟩
      · exact ⟨course.snoc kept (refusal?_of_ok said), fresh⟩
    · exact ⟨course, fresh⟩

/-- A link is written on a copy that was not marked, so nothing is removed. -/
theorem spares_label {s : Store BindingSpec BindingStatus} {b o : Binding} (copy : s.Snapshot b)
    (alive : b.isDeleting = false) (key : o.key = b.key)
    (version : o.metadata.version = b.metadata.version) : s.Spares o := by
  intro stored found standing deleting
  obtain rfl := copy.eq_of_standsOn key version found standing
  rw [alive] at deleting
  contradiction

/-- How a link is set: the copy then has the stored status, or nothing was changed. -/
theorem outcome_label {b : Binding} {name : String} {past : List Exchange} (key : b.key = k)
    (alive : b.isDeleting = false) (fresh : Fresh b past) {refused : Option (Request × ProviderFailure)}
    (course : Course (.binding d k) refused past)
    (holds : Holds (.binding d k) (.binding b.status) past) :
    (label b name).Obeys playing (fun later result => Course (.binding d k) refused later ∧
      match result with
      | .ok b => b.key = k ∧ Holds (.binding d k) (.binding b.status) later
      | .error f => f.isRetryable = true) past := by
  unfold label
  split
  · exact ⟨course, key, holds⟩
  · refine obeys_bindings.mpr ⟨trivial, ?_⟩
    rintro answer later ⟨met, c, follows, said, rfl⟩
    cases answer with
    | error f => exact ⟨course.snoc (keeps_of_failed d k said) rfl, rfl⟩
    | ok written =>
      have spares : met.cluster.bindings.Spares { b with metadata := b.metadata.setLabel linkLabel name } :=
        spares_label (fresh met follows) alive rfl rfl
      obtain ⟨answered, served⟩ := Exchange.bindings_served said
      have found := Store.stored_of_update spares answered
      have here : ({ b with metadata := b.metadata.setLabel linkLabel name } : Binding).key = k := key
      rw [here] at found
      have kept : (Errand.binding d k).Keeps
          ⟨met, c, .bindings (.update { b with metadata := b.metadata.setLabel linkLabel name })⟩ := by
        have same := met.sound.bindings.status_update met.cluster.now spares k
        rw [← served] at same
        simpa [Errand.Keeps, Errand.status?, Option.map_map, Function.comp_def] using
          congrArg (Option.map AnyStatus.binding) same
      refine ⟨course.snoc kept rfl, ?_, Holds.last ?_⟩
      · have sound := (met.sound.answer c (.bindings (.update
          { b with metadata := b.metadata.setLabel linkLabel name }))).bindings
        exact sound.filed (served ▸ found)
      · simp only [Errand.status?, served, Store.perform, found, Option.map_some]

/-- How the pass ends once it knows which status the binding should have. -/
theorem outcome_write {b : Binding} {status : BindingStatus} {past : List Exchange} (key : b.key = k)
    {refused : Option (Request × ProviderFailure)} (course : Course (.binding d k) refused past)
    (holds : Holds (.binding d k) (.binding b.status) past)
    (told : ∀ r g, refused = some (r, g) →
      validates r = false ∧ (Errand.binding d k).Terminal g (.binding status)) :
    Obeys playing (Outcome (.binding d k)) past (if status ≠ b.status then
      (Pass.bindings (.updateStatus { b with status := status }) >>= fun _ => pure Action.await)
      else pure .await) := by
  split
  · apply obeys_bind.mpr
    refine obeys_bindings.mpr ⟨trivial, ?_⟩
    rintro answer later ⟨met, c, _, said, rfl⟩
    cases answer with
    | error f =>
      exact (course.snoc (keeps_of_failed d k said) rfl).fails rfl fun r g same => (told r g same).1
    | ok written =>
      refine Course.succeeds_of_holds (forall_mem_snoc course.only ?_) told (Holds.last ?_) .await
      · intro g given
        contradiction
      · obtain ⟨answered, served⟩ := Exchange.bindings_served said
        obtain ⟨stored, same⟩ := met.sound.bindings.stored_of_updateStatus answered
        have here : ({ b with status := status } : Binding).key = k := key
        rw [here] at stored
        simp only [Errand.status?, served, Store.perform, stored, Option.map_some, same]
  · next same =>
    have same : status = b.status := by simpa using same
    exact Course.succeeds_of_holds course.only told (same ▸ holds) .await

/-- How the pass over a binding ends. -/
theorem outcome_pass : (d.pass k).Obeys playing (Outcome (.binding d k)) [] := by
  unfold pass
  apply obeys_bind.mpr
  refine obeys_bindings.mpr ⟨trivial, ?_⟩
  rintro answer later ⟨met, c, follows, said, rfl⟩
  have kept : (Errand.binding d k).Keeps ⟨met, c, .bindings (.get k)⟩ := by
    rcases Cluster.answer_bindings_cases met.cluster c (.get k) with ⟨f, failed⟩ | ⟨_, served⟩
    · simp only [Errand.Keeps, Exchange.left, failed]
    · simp only [Errand.Keeps, Errand.status?, Exchange.left, served, Store.perform]
  have course : Course (.binding d k) none ([] ++ [⟨met, c, .bindings (.get k)⟩]) :=
    Course.nil.snoc kept rfl
  rcases answer with f | _ | b
  · exact course.unrefused_fails rfl
  · exact Course.succeeds course.unrefused .await
  · obtain ⟨answered, served⟩ := Exchange.bindings_served (r := .get k) said
    have stored : met.cluster.bindings.get? k = some b := Except.ok.inj answered
    have key : b.key = k := met.sound.bindings.filed stored
    change Obeys playing _ _ (if b.isDeleting = true then _ else _)
    split
    · exact Course.succeeds course.unrefused .await
    · next alive =>
      have alive : b.isDeleting = false := by simpa using alive
      have fresh : Fresh b ([] ++ [⟨met, c, .bindings (.get k)⟩]) :=
        fresh_of_snapshot (served ▸ met.sound.bindings.snapshot stored)
      have holds : Holds (.binding d k) (.binding b.status) ([] ++ [⟨met, c, .bindings (.get k)⟩]) := by
        apply Holds.last
        rw [kept]
        simp only [Errand.status?, stored, Option.map_some]
      apply obeys_bind.mpr
      apply (resolved_resolve d k b course fresh).grows.mono
      intro later result
      rintro ⟨⟨resolved, fresh⟩, more, rfl⟩
      cases result with
      | error f => exact resolved.1.unrefused_fails resolved.2
      | ok resolution =>
        cases resolution with
        | linked token =>
          have course : Course (.binding d k) none _ := resolved
          have holds := holds.append fun y present => course.keeps y (List.mem_append_right _ present)
          apply obeys_bind.mpr
          apply (outcome_label d k key alive fresh course holds).mono
          intro later result
          rintro ⟨course, ends⟩
          cases result with
          | error f => exact course.unrefused_fails ends
          | ok b => exact outcome_write d k ends.1 course ends.2 fun _ _ none => by contradiction
        | failed reason message =>
          obtain ⟨refused, course, told⟩ := resolved
          have holds := holds.append fun y present => course.keeps y (List.mem_append_right _ present)
          apply outcome_write d k key course holds
          intro r g same
          obtain ⟨other, rfl, rfl⟩ := told r g same
          exact ⟨other, b.status.linkedToken, rfl⟩

end TokenSteward.BindingDesk
