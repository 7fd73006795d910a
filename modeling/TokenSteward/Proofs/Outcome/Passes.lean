import TokenSteward.Proofs.Outcome.Binding

/-! # No pass fails in silence, but for one case

A pass that fails has kept the status of its object, and its failure is worth another try: unless a
provider refused to validate the credential of a token. That refusal is neither recorded in the
status nor retried. Every other refusal becomes a status, or the write of the status has failed and
the pass is tried again.
-/

namespace TokenSteward

open TokenSteward.Cluster TokenSteward.Resource TokenSteward.Provider TokenSteward.Secret Pass

/-- How the pass over a data update ends. -/
theorem UpdateDesk.outcome_pass (d : UpdateDesk) (k : Key) :
    (d.pass k).Obeys playing (Outcome (.update d k)) [] := by
  have keepsOther {met : Ground} {c : Chance} {r : Request} (other : ∀ s, r ≠ .updates s) :
      (Errand.update d k).Keeps ⟨met, c, r⟩ := by
    simp only [Errand.Keeps, Errand.status?, Exchange.left, Cluster.updates_answer _ _ _ other]
  unfold pass
  apply obeys_bind.mpr
  refine obeys_updates.mpr ⟨trivial, ?_⟩
  rintro answer later ⟨met, c, _, said, rfl⟩
  have kept : (Errand.update d k).Keeps ⟨met, c, .updates (.get k)⟩ := by
    rcases Cluster.answer_updates_cases met.cluster c (.get k) with ⟨f, failed⟩ | ⟨_, served⟩
    · simp only [Errand.Keeps, Exchange.left, failed]
    · simp only [Errand.Keeps, Errand.status?, Exchange.left, served, Store.perform]
  have course : Course (.update d k) none ([] ++ [⟨met, c, .updates (.get k)⟩]) :=
    Course.nil.snoc kept rfl
  rcases answer with f | _ | u
  · exact course.unrefused_fails rfl
  · exact Course.succeeds course.unrefused .await
  · apply obeys_bind.mpr
    refine obeys_attempt.mpr ⟨trivial, ?_⟩
    rintro _ later ⟨met, c, _, _, rfl⟩
    have kept : (Errand.update d k).Keeps ⟨met, c, .enqueue d.tokenQueue (DataUpdate.token u)⟩ :=
      keepsOther (by simp)
    have course := course.snoc kept rfl
    apply obeys_bind.mpr
    refine obeys_attempt.mpr ⟨trivial, ?_⟩
    rintro answer later ⟨met, c, _, said, rfl⟩
    cases answer with
    | ok u => exact Course.succeeds (forall_mem_snoc course.unrefused rfl) .await
    | error f =>
      have kept : (Errand.update d k).Keeps ⟨met, c, .updates (.delete k)⟩ := by
        simp only [Errand.Keeps, Errand.status?, Exchange.updates_failed said]
      have course := course.snoc kept rfl
      change Obeys playing _ _ (if f.isNotFound = true then _ else _)
      split
      · exact Course.succeeds course.unrefused .await
      · exact course.unrefused_fails rfl

/-- How every pass ends, whatever comes between its requests. -/
theorem Errand.outcome (e : Errand) (g : Ground) (comes : Nat → Between) :
    Outcome e (e.pass.play comes 0 g).1 (e.pass.play comes 0 g).2 := by
  cases e with
  | token d k => exact (d.outcome_pass k).play comes g
  | binding d k => exact (d.outcome_pass k).play comes g
  | update d k => exact (d.outcome_pass k).play comes g

/-- A pass that fails keeps the status of its object, and its failure is worth another try unless a
provider refused a validation. A refused validation fails the pass for good; any other refusal
becomes a status with a reason, or the pass fails with a failure that is worth another try. -/
theorem pass_fails_for_good_iff (e : Errand) (g : Ground) (comes : Nat → Between) :
    (∀ f, (e.pass.play comes 0 g).2 = .error f →
      (∀ x ∈ (e.pass.play comes 0 g).1, e.Keeps x) ∧
      (f.isRetryable = false ↔ ∃ x ∈ (e.pass.play comes 0 g).1, ∃ h,
        x.refusal? = some h ∧ validates x.request = true)) ∧
    ∀ x ∈ (e.pass.play comes 0 g).1, ∀ h, x.refusal? = some h →
      if validates x.request then (e.pass.play comes 0 g).2 = .error (.provider h)
      else (∃ a s, (e.pass.play comes 0 g).2 = .ok a ∧ e.Terminal h s ∧
          Holds e s (e.pass.play comes 0 g).1) ∨
        ∃ f, (e.pass.play comes 0 g).2 = .error f ∧ f.isRetryable = true := by
  have outcome := e.outcome g comes
  generalize (e.pass.play comes 0 g).1 = past at outcome ⊢
  generalize (e.pass.play comes 0 g).2 = result at outcome ⊢
  cases result with
  | ok a =>
    refine ⟨fun f failed => by contradiction, ?_⟩
    intro x present h given
    obtain ⟨other, s, terminal, holds⟩ := outcome x present h given
    rw [if_neg (by simp [other])]
    exact .inl ⟨a, s, rfl, terminal, holds⟩
  | error f =>
    obtain ⟨keeps, ⟨retryable, others⟩ | ⟨g, rfl, ⟨y, there, refusal⟩, only⟩⟩ := outcome
    · constructor
      · intro f' same
        obtain rfl := Except.error.inj same
        refine ⟨keeps, by simp [retryable], ?_⟩
        rintro ⟨x, present, h, given, validation⟩
        rw [others x present h given] at validation
        contradiction
      · intro x present h given
        rw [if_neg (by simp [others x present h given])]
        exact .inr ⟨f, rfl, retryable⟩
    · have refused := isRefusal_of_refusal? refusal
      constructor
      · intro f' same
        obtain rfl := Except.error.inj same
        refine ⟨keeps, fun _ => ⟨y, there, g, refusal, (only y there g refusal).1⟩, ?_⟩
        intro _
        simp only [Failure.isRetryable, Failure.toClass, if_pos refused]
        rfl
      · intro x present h given
        obtain ⟨validation, rfl⟩ := only x present h given
        rw [if_pos validation]

/-- A provider that refuses everything. -/
def refusing : Chance := .calm fun _ _ => .error (.response 401 "bad credentials")

/-- A token of such a provider. -/
def refusedToken : AccessToken :=
  .fresh (Metadata.named "dev" "git") "https://git.example" Permissions.none

/-- A pass over that token. -/
def refusedErrand : Errand :=
  .token ⟨[⟨default, "https://git.example", fun _ => []⟩], none, TokenDesk.standardRecheck⟩
    refusedToken.key

/-- Before the first request the token is created and a record for it is stored. -/
def refusedAfter : Nat → Between
  | 0 => ⟨[(refusing, .tokens (.create refusedToken)),
      (refusing, .vault (.store { refusedToken with metadata.uid := "<uid:t1>" } .blank))], 0, refusing⟩
  | _ => ⟨[], 0, refusing⟩

/-- A pass can fail for good, and then no status tells of it. -/
theorem exists_pass_that_fails_for_good :
    ¬ ∀ (e : Errand) (g : Ground) (comes : Nat → Between) (f : Failure),
      (e.pass.play comes 0 g).2 = .error f → f.isRetryable = true := by
  intro always
  have retryable := always refusedErrand ⟨.empty (.serial 0), Cluster.sound_empty (.serial 0)⟩ refusedAfter
    (.provider (.response 401 "bad credentials")) (by decide +kernel)
  exact absurd retryable (by decide)

end TokenSteward
