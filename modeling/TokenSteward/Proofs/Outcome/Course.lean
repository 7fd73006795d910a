import TokenSteward.Pass.Binding
import TokenSteward.Pass.Token
import TokenSteward.Pass.Update
import TokenSteward.Proofs.Pass.Play
import TokenSteward.Proofs.Snoc
import TokenSteward.Proofs.Traffic.Basic

/-! # The course of a pass

What matters for the object that a pass is over is whether an exchange changes the object's status,
and whether a provider refused a credential in it. The course of a pass is seen as the exchanges go
by: each keeps the status, and at most one is a refusal.
-/

namespace TokenSteward

open TokenSteward.Cluster TokenSteward.Resource TokenSteward.Provider

/-- The status of an object of any kind. -/
inductive AnyStatus where
  | token (s : TokenStatus)
  | binding (s : BindingStatus)
  | update

/-- The status of the object that a pass is over, if that is stored. -/
def Errand.status? : Errand → Cluster → Option AnyStatus
  | .token _ k, c => (c.tokens.get? k).map fun t => .token t.status
  | .binding _ k, c => (c.bindings.get? k).map fun b => .binding b.status
  | .update _ k, c => (c.updates.get? k).map fun _ => .update

/-- An exchange leaves the status of the object as it is. -/
def Errand.Keeps (e : Errand) (x : Exchange) : Prop := e.status? x.left = e.status? x.cluster

/-- The failure by which a provider refuses a credential in answer to a request. -/
def refusalOf : (r : Request) → r.Answer → Option ProviderFailure
  | .provider _ _, .error f => if f.isRefusal then some f else none
  | _, _ => none

/-- The failure by which a provider refuses a credential in an exchange. -/
def Exchange.refusal? (x : Exchange) : Option ProviderFailure := refusalOf x.request x.answer

theorem isRefusal_of_refusal? {x : Exchange} {g : ProviderFailure} (given : x.refusal? = some g) :
    g.isRefusal = true := by
  unfold Exchange.refusal? refusalOf at given
  split at given
  · split at given
    · next refused => exact Option.some.inj given ▸ refused
    · contradiction
  · contradiction

theorem refusal?_of_error {met : Ground} {c : Chance} {s : Service} {r : ProviderRequest} {f : ProviderFailure}
    (said : .error f = Exchange.answer ⟨met, c, .provider s r⟩) :
    Exchange.refusal? ⟨met, c, .provider s r⟩ = if f.isRefusal then some f else none := by
  simp only [Exchange.refusal?, ← said, refusalOf]

theorem refusal?_of_ok {met : Ground} {c : Chance} {s : Service} {r : ProviderRequest} {a : r.Result}
    (said : .ok a = Exchange.answer ⟨met, c, .provider s r⟩) :
    Exchange.refusal? ⟨met, c, .provider s r⟩ = none := by
  simp only [Exchange.refusal?, ← said, refusalOf]

/-- Whether a request is for a provider to validate a credential. -/
def validates : Request → Bool
  | .provider _ (.validate _ _) => true
  | _ => false

/-- The exchanges have all kept the status of the object, and the only refusal among them is a
given one. -/
structure Course (e : Errand) (refused : Option (Request × ProviderFailure)) (past : List Exchange) :
    Prop where
  keeps : ∀ x ∈ past, e.Keeps x
  only : ∀ x ∈ past, ∀ g, x.refusal? = some g → refused = some (x.request, g)
  present : ∀ r g, refused = some (r, g) → ∃ x ∈ past, x.request = r ∧ x.refusal? = some g

/-- An exchange has left the object with a status, and none has changed it since. -/
def Holds (e : Errand) (s : AnyStatus) (past : List Exchange) : Prop :=
  ∃ early x late, past = early ++ x :: late ∧ e.status? x.left = some s ∧ ∀ y ∈ late, e.Keeps y

namespace Course

variable {e : Errand} {refused : Option (Request × ProviderFailure)} {past more : List Exchange}
  {x : Exchange}

theorem nil : Course e none [] :=
  ⟨fun _ none => by simp at none, fun _ none => by simp at none, fun _ _ none => by simp at none⟩

/-- An exchange that keeps the status and is no refusal. -/
theorem snoc (course : Course e refused past) (keeps : e.Keeps x) (quiet : x.refusal? = none) :
    Course e refused (past ++ [x]) := by
  refine ⟨forall_mem_snoc course.keeps keeps, ?_, ?_⟩
  · apply forall_mem_snoc course.only
    intro g given
    rw [quiet] at given
    contradiction
  · intro r g same
    obtain ⟨y, early, found⟩ := course.present r g same
    exact ⟨y, List.mem_append_left _ early, found⟩

/-- An exchange that keeps the status and is the first refusal. -/
theorem refuse (course : Course e none past) (keeps : e.Keeps x) {g : ProviderFailure}
    (refusal : x.refusal? = some g) : Course e (some (x.request, g)) (past ++ [x]) := by
  refine ⟨forall_mem_snoc course.keeps keeps, ?_, ?_⟩
  · apply forall_mem_snoc
    · intro y early g given
      have none := course.only y early g given
      contradiction
    · intro g given
      rw [refusal] at given
      rw [Option.some.inj given]
  · intro r g same
    obtain ⟨rfl, rfl⟩ := Prod.mk.inj (Option.some.inj same)
    exact ⟨x, by simp, rfl, refusal⟩

end Course

namespace Holds

variable {e : Errand} {s : AnyStatus} {past more : List Exchange} {x : Exchange}

theorem last (left : e.status? x.left = some s) : Holds e s (past ++ [x]) :=
  ⟨past, x, [], rfl, left, fun y none => by simp at none⟩

theorem append (holds : Holds e s past) (keeps : ∀ y ∈ more, e.Keeps y) : Holds e s (past ++ more) := by
  obtain ⟨early, x, late, rfl, left, kept⟩ := holds
  refine ⟨early, x, late ++ more, by simp, left, ?_⟩
  intro y present
  exact (List.mem_append.mp present).elim (kept y) (keeps y)

end Holds

theorem retryable_of_passing {f : ProviderFailure} (passing : ¬ f.isRefusal = true) :
    (Failure.provider f).isRetryable = true := by
  simp only [Failure.isRetryable, Failure.toClass, if_neg passing]
  rfl

/-- The status that says that a provider refused a credential. -/
def Errand.Terminal : Errand → ProviderFailure → AnyStatus → Prop
  | .token _ _, g, s => s = .token (.invalid .metadataFailure g.message)
  | .binding _ _, g, s =>
    ∃ linked, s = .binding ⟨.error, some .tokenLookupFailed, g.message, linked⟩
  | .update _ _, _, _ => False

/-- How a pass ends: with a result only if each refusal has become a status; with a failure only if
it has kept the status, and then the failure is worth another try, or it is the refusal of a
validation. -/
def Outcome (e : Errand) (past : List Exchange) : Except Failure Action → Prop
  | .ok _ => ∀ x ∈ past, ∀ g, x.refusal? = some g →
      validates x.request = false ∧ ∃ s, e.Terminal g s ∧ Holds e s past
  | .error f => (∀ x ∈ past, e.Keeps x) ∧
      ((f.isRetryable = true ∧ ∀ x ∈ past, ∀ g, x.refusal? = some g → validates x.request = false) ∨
        ∃ g, f = .provider g ∧ (∃ x ∈ past, x.refusal? = some g) ∧
          ∀ x ∈ past, ∀ h, x.refusal? = some h → validates x.request = true ∧ h = g)

namespace Course

variable {e : Errand} {refused : Option (Request × ProviderFailure)} {past : List Exchange}
  {r : Request} {g : ProviderFailure}

theorem unrefused (course : Course e none past) : ∀ x ∈ past, x.refusal? = none := by
  intro x present
  cases given : x.refusal? with
  | none => rfl
  | some g =>
    have none := course.only x present g given
    contradiction

theorem succeeds (unrefused : ∀ x ∈ past, x.refusal? = none) (a : Action) : Outcome e past (.ok a) := by
  intro x present g given
  rw [unrefused x present] at given
  contradiction

/-- A pass that fails, and not for the refusal of a validation. -/
theorem fails (course : Course e refused past) {f : Failure} (retryable : f.isRetryable = true)
    (other : ∀ r g, refused = some (r, g) → validates r = false) : Outcome e past (.error f) :=
  ⟨course.keeps, .inl ⟨retryable, fun x present g given => other _ g (course.only x present g given)⟩⟩

theorem unrefused_fails (course : Course e none past) {f : Failure} (retryable : f.isRetryable = true) :
    Outcome e past (.error f) :=
  course.fails retryable fun _ _ none => by contradiction

theorem fails_of_validation (course : Course e (some (r, g)) past) (validation : validates r = true) :
    Outcome e past (.error (.provider g)) := by
  obtain ⟨x, present, _, refusal⟩ := course.present r g rfl
  refine ⟨course.keeps, .inr ⟨g, rfl, ⟨x, present, refusal⟩, fun y present h given => ?_⟩⟩
  obtain ⟨rfl, rfl⟩ := Prod.mk.inj (Option.some.inj (course.only y present h given))
  exact ⟨validation, rfl⟩

/-- A pass that succeeds after what was refused has become a status. -/
theorem succeeds_of_holds {s : AnyStatus}
    (only : ∀ x ∈ past, ∀ g, x.refusal? = some g → refused = some (x.request, g))
    (told : ∀ r g, refused = some (r, g) → validates r = false ∧ e.Terminal g s)
    (holds : Holds e s past) (a : Action) : Outcome e past (.ok a) := by
  intro x present g given
  obtain ⟨other, terminal⟩ := told _ _ (only x present g given)
  exact ⟨other, s, terminal, holds⟩

end Course

end TokenSteward
