import TokenSteward.Proofs.Outcome.Course
import TokenSteward.Proofs.Pass.Guards
import TokenSteward.Proofs.Pass.Requests

/-! # How a pass over a token ends

The status of a token is written last, so a pass that fails before has left it alone, and one that
fails at the write has not written it. A refusal of the holder's data becomes a status; a refusal of
the validation is passed on as the failure of the pass.
-/

namespace TokenSteward

open TokenSteward.Cluster TokenSteward.Resource TokenSteward.Provider TokenSteward.Secret Pass

namespace TokenDesk

variable (d : TokenDesk) (k : Key)

/-- What it takes to work out a status leaves all statuses alone. -/
theorem keeps_of_looks {x : Exchange} (looks : Looks x.request) : (Errand.token d k).Keeps x := by
  have same : x.left.tokens = x.cluster.tokens := by
    apply Cluster.tokens_answer _ _ _
    intro s is
    rw [is] at looks
    cases looks
  simp only [Errand.Keeps, Errand.status?, same]

/-- How the work on a status ends: with a status that tells the refusal if there was one, or with a
failure that is the refusal of a validation, if there was one. -/
def Worked (e : Errand) (past : List Exchange) : Except Failure TokenStatus → Prop
  | .ok status => ∃ refused, Course e refused past ∧ ∀ r g, refused = some (r, g) →
      validates r = false ∧ status = .invalid .metadataFailure g.message
  | .error f => (Course e none past ∧ f.isRetryable = true) ∨
      ∃ r g, Course e (some (r, g)) past ∧ validates r = true ∧ f = .provider g

theorem worked_ok {e : Errand} {past : List Exchange} (course : Course e none past)
    (status : TokenStatus) : Worked e past (.ok status) :=
  ⟨none, course, fun _ _ none => by contradiction⟩

theorem worked_awaitingStatus (t : AccessToken) (s : Service) {past : List Exchange}
    (course : Course (.token d k) none past) :
    (d.awaitingStatus t s).Obeys playing (Worked (.token d k)) past := by
  unfold awaitingStatus
  split
  · exact worked_ok course _
  · dsimp only
    split
    · exact worked_ok course _
    · apply obeys_bind.mpr
      refine obeys_attempt.mpr ⟨trivial, ?_⟩
      rintro answer later ⟨met, c, _, _, rfl⟩
      exact worked_ok (course.snoc (keeps_of_looks d k .clock) rfl) _

theorem worked_desiredStatus (t : AccessToken) {past : List Exchange}
    (course : Course (.token d k) none past) :
    (d.desiredStatus t).Obeys playing (Worked (.token d k)) past := by
  unfold desiredStatus
  split
  · exact worked_ok course _
  · next s _ =>
    apply obeys_bind.mpr
    refine obeys_vault.mpr ⟨trivial, ?_⟩
    rintro found later ⟨met, c, _, _, rfl⟩
    have course := course.snoc (x := ⟨met, c, _⟩) (keeps_of_looks d k (.record t)) rfl
    rcases found with f | _ | r
    · exact .inl ⟨course, rfl⟩
    · exact worked_awaitingStatus d k t s course
    · apply obeys_bind.mpr
      refine obeys_provider.mpr ⟨trivial, ?_⟩
      rintro found later ⟨met, c, _, said, rfl⟩
      have kept : (Errand.token d k).Keeps ⟨met, c, .provider s (.validate r t.spec.permissions)⟩ :=
        keeps_of_looks d k (.provider s _)
      cases found with
      | error f =>
        have refusal := refusal?_of_error said
        split at refusal
        · exact .inr ⟨_, f, course.refuse kept refusal, rfl, rfl⟩
        · next passing => exact .inl ⟨course.snoc kept refusal, retryable_of_passing passing⟩
      | ok validation =>
        have course := course.snoc kept (refusal?_of_ok said)
        change Obeys playing _ _ (if _ then _ else _)
        split
        · exact worked_ok course _
        · apply obeys_bind.mpr
          refine obeys_attempt.mpr ⟨trivial, ?_⟩
          rintro found later ⟨met, c, _, said, rfl⟩
          have kept : (Errand.token d k).Keeps ⟨met, c, .provider s (.persist t r)⟩ :=
            keeps_of_looks d k (.provider s _)
          cases found with
          | ok holder => exact worked_ok (course.snoc kept (refusal?_of_ok said)) _
          | error f =>
            have refusal := refusal?_of_error said
            change Obeys playing _ _ (if f.isRefusal = true then _ else _)
            split at refusal
            · next refused =>
              rw [if_pos refused]
              refine ⟨_, course.refuse kept refusal, ?_⟩
              intro r g same
              obtain ⟨rfl, rfl⟩ := Prod.mk.inj (Option.some.inj same)
              exact ⟨rfl, rfl⟩
            · next passing =>
              rw [if_neg passing]
              exact .inl ⟨course.snoc kept refusal, retryable_of_passing passing⟩

/-- A write of a token that keeps a guard leaves its status alone. -/
theorem keeps_update {met : Ground} {c : Chance} {o : AccessToken} (guarded : o.metadata.guards ≠ []) :
    (Errand.token d k).Keeps ⟨met, c, .tokens (.update o)⟩ := by
  have same : ((Exchange.left ⟨met, c, .tokens (.update o)⟩).tokens.get? k).map (·.status) =
      (met.cluster.tokens.get? k).map (·.status) := by
    rcases Cluster.answer_tokens_cases met.cluster c (.update o) with ⟨f, failed⟩ | ⟨_, served⟩
    · simp only [Exchange.left, failed]
    · simp only [Exchange.left, served]
      exact met.sound.tokens.status_update _ (fun _ _ _ _ => guarded) k
  simpa [Errand.Keeps, Errand.status?, Option.map_map, Function.comp_def] using
    congrArg (Option.map AnyStatus.token) same

/-- A request to the tokens that fails has no effect. -/
theorem keeps_of_failed {met : Ground} {c : Chance} {r : StoreRequest TokenSpec TokenStatus} {f : StoreFailure}
    (failed : .error f = Exchange.answer ⟨met, c, .tokens r⟩) :
    (Errand.token d k).Keeps ⟨met, c, .tokens r⟩ := by
  simp only [Errand.Keeps, Errand.status?, Exchange.tokens_failed failed]

theorem outcome_writeGuards {t o : AccessToken} {past : List Exchange}
    (course : Course (.token d k) none past) :
    (writeGuards t o).Obeys playing (fun later result => match result with
      | .ok () => (∀ x ∈ later, x.refusal? = none) ∧
          (o.metadata.guards ≠ [] → Course (.token d k) none later)
      | .error f => Course (.token d k) none later ∧ f.isRetryable = true) past := by
  unfold writeGuards
  split
  · apply obeys_bind.mpr
    refine obeys_tokens.mpr ⟨trivial, ?_⟩
    rintro answer later ⟨met, c, _, said, rfl⟩
    cases answer with
    | error f => exact ⟨course.snoc (keeps_of_failed d k said) rfl, rfl⟩
    | ok written =>
      exact ⟨forall_mem_snoc course.unrefused rfl, fun guarded =>
        course.snoc (keeps_update d k guarded) rfl⟩
  · exact ⟨course.unrefused, fun _ => course⟩

theorem outcome_finalize {t : AccessToken} {past : List Exchange}
    (course : Course (.token d k) none past) :
    (d.finalize t).Obeys playing (Outcome (.token d k)) past := by
  have keepsOther {met : Ground} {c : Chance} {r : Request} (other : ∀ s, r ≠ .tokens s) :
      (Errand.token d k).Keeps ⟨met, c, r⟩ := by
    simp only [Errand.Keeps, Errand.status?, Exchange.left, Cluster.tokens_answer _ _ _ other]
  have listed : (holders t).Obeys playing (fun later result => Course (.token d k) none later ∧
      ∀ f, result = .error f → f.isRetryable = true) past := by
    unfold holders
    split
    · refine obeys_bindings.mpr ⟨trivial, ?_⟩
      rintro answer later ⟨met, c, _, _, rfl⟩
      refine ⟨course.snoc (keepsOther (by simp)) rfl, ?_⟩
      intro f failed
      cases answer with
      | error g => exact Except.error.inj failed ▸ rfl
      | ok linked => contradiction
    · exact ⟨course, fun f failed => by contradiction⟩
  rw [finalize_eq, obeys_bind]
  apply listed.mono
  rintro past result ⟨course, retryable⟩
  cases result with
  | error f => exact course.unrefused_fails (retryable f rfl)
  | ok linked =>
    have deleted : (cleanup (unlinked t linked)).Obeys playing (fun later result =>
        Course (.token d k) none later ∧ ∃ outcome, result = .ok outcome ∧
          ∀ f, outcome = .error f → (unlinked t linked).metadata.guards ≠ []) past := by
      unfold cleanup
      split
      · next kept =>
        refine obeys_attempt.mpr ⟨trivial, ?_⟩
        rintro answer later ⟨met, c, _, _, rfl⟩
        refine ⟨course.snoc (keepsOther (by simp)) rfl, answer, rfl, ?_⟩
        intro _ _ bare
        simp [Metadata.hasGuard, bare] at kept
      · exact ⟨course, _, rfl, fun f failed => by contradiction⟩
    apply obeys_bind.mpr
    apply deleted.mono
    intro past result
    rintro ⟨course, outcome, rfl, guarded⟩
    apply obeys_bind.mpr
    apply (outcome_writeGuards d k course).mono
    intro past result ends
    cases result with
    | error f => exact ends.1.unrefused_fails ends.2
    | ok u =>
      cases outcome with
      | ok u => exact Course.succeeds ends.1 .await
      | error f => exact (ends.2 (guarded f rfl)).unrefused_fails rfl

/-- How the pass ends once it has a copy of the token, whose status is the stored one. -/
theorem outcome_work {t : AccessToken} {past : List Exchange} (key : t.key = k)
    (course : Course (.token d k) none past) (holds : Holds (.token d k) (.token t.status) past) :
    (d.work t).Obeys playing (Outcome (.token d k)) past := by
  apply obeys_bind.mpr
  apply (worked_desiredStatus d k t course).grows.mono
  intro later result
  rintro ⟨worked, more, rfl⟩
  cases result with
  | error f =>
    rcases worked with ⟨course, retryable⟩ | ⟨r, g, course, validation, rfl⟩
    · exact course.unrefused_fails retryable
    · exact course.fails_of_validation validation
  | ok status =>
    obtain ⟨refused, course, told⟩ := worked
    have terminal (r : Request) (g : ProviderFailure) (same : refused = some (r, g)) :
        validates r = false ∧ (Errand.token d k).Terminal g (.token status) := by
      obtain ⟨other, rfl⟩ := told r g same
      exact ⟨other, rfl⟩
    change Obeys playing _ _ (if _ then _ else _)
    split
    · apply obeys_bind.mpr
      refine obeys_tokens.mpr ⟨trivial, ?_⟩
      rintro answer later ⟨met, c, _, said, rfl⟩
      cases answer with
      | error f =>
        exact (course.snoc (keeps_of_failed d k said) rfl).fails rfl fun r g same => (told r g same).1
      | ok written =>
        refine Course.succeeds_of_holds (forall_mem_snoc course.only ?_) terminal (Holds.last ?_) .await
        · intro g given
          contradiction
        · obtain ⟨answered, served⟩ := Exchange.tokens_served said
          obtain ⟨stored, told⟩ := met.sound.tokens.stored_of_updateStatus answered
          have here : ({ t with status := status } : AccessToken).key = k := key
          rw [here] at stored
          simp only [Errand.status?, served, Store.perform, stored, Option.map_some, told]
    · next same =>
      have same : status = t.status := by simpa using same
      have holds := holds.append fun y present => course.keeps y (List.mem_append_right _ present)
      exact Course.succeeds_of_holds course.only terminal (same ▸ holds) .await

/-- How the pass over a token ends. -/
theorem outcome_pass : (d.pass k).Obeys playing (Outcome (.token d k)) [] := by
  rw [pass_eq]
  apply obeys_bind.mpr
  refine obeys_tokens.mpr ⟨trivial, ?_⟩
  rintro answer later ⟨met, c, _, said, rfl⟩
  have kept : (Errand.token d k).Keeps ⟨met, c, .tokens (.get k)⟩ := by
    rcases Cluster.answer_tokens_cases met.cluster c (.get k) with ⟨f, failed⟩ | ⟨_, served⟩
    · simp only [Errand.Keeps, Exchange.left, failed]
    · simp only [Errand.Keeps, Errand.status?, Exchange.left, served, Store.perform]
  have course : Course (.token d k) none ([] ++ [⟨met, c, .tokens (.get k)⟩]) := Course.nil.snoc kept rfl
  rcases answer with f | _ | t
  · exact course.unrefused_fails rfl
  · exact Course.succeeds course.unrefused .await
  · obtain ⟨answered, _⟩ := Exchange.tokens_served (r := .get k) said
    have stored : met.cluster.tokens.get? k = some t := Except.ok.inj answered
    have key : t.key = k := met.sound.tokens.filed stored
    change Obeys playing _ _ (if t.isDeleting = true then d.finalize t else _)
    split
    · exact outcome_finalize d k course
    · split
      · apply obeys_bind.mpr
        refine obeys_tokens.mpr ⟨trivial, ?_⟩
        rintro answer later ⟨met, c, _, said, rfl⟩
        cases answer with
        | error f => exact (course.snoc (keeps_of_failed d k said) rfl).unrefused_fails rfl
        | ok written =>
          obtain ⟨answered, served⟩ := Exchange.tokens_served said
          have found := Store.stored_of_update (fun _ _ _ _ => guards_guarded t) answered
          rw [key_guarded, key] at found
          have key : written.key = k := by
            have sound := (met.sound.answer c (.tokens (.update (guarded t)))).tokens
            apply sound.filed
            exact served ▸ found
          refine outcome_work d k key (course.snoc (keeps_update d k (guards_guarded t)) rfl)
            (Holds.last ?_)
          simp only [Errand.status?, served, Store.perform, found, Option.map_some]
      · refine outcome_work d k key course (Holds.last ?_)
        rw [kept]
        simp only [Errand.status?, stored, Option.map_some]

end TokenDesk

end TokenSteward
