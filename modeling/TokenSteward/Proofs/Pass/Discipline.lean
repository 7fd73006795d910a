import TokenSteward.Pass.Basic

/-! # Disciplines

A discipline says what a pass may ask for, depending on what it knows, and what it may know after an
answer. A pass obeys a discipline if it asks for nothing else, whatever it is answered, and ends in
a way that fits what it knows then. How a pass that is made of others obeys follows from how they
do, so each part is looked at once, with the end that the next part needs.
-/

namespace TokenSteward

open TokenSteward.Cluster TokenSteward.Resource TokenSteward.Provider

namespace Pass

variable {α β γ : Type}

private theorem andThen_done (p : Pass α) : p.andThen .done = p := by
  induction p with
  | done a => rfl
  | fail f => rfl
  | ask r rest ih => exact congrArg (Pass.ask r) (funext ih)

private theorem andThen_assoc (p : Pass α) (f : α → Pass β) (g : β → Pass γ) :
    (p.andThen f).andThen g = p.andThen fun a => (f a).andThen g := by
  induction p with
  | done a => rfl
  | fail f => rfl
  | ask r rest ih => exact congrArg (Pass.ask r) (funext ih)

instance : LawfulMonad Pass :=
  LawfulMonad.mk' Pass andThen_done (fun _ _ => rfl) andThen_assoc

end Pass

/-- What may be asked for with some knowledge, and what is known after an answer. -/
structure Discipline (κ : Type) where
  allows : κ → Request → Prop
  leads : κ → (r : Request) → r.Answer → κ → Prop

namespace Pass

variable {κ α β : Type} {d : Discipline κ}

/-- The pass asks only for what is allowed, and ends as it should. -/
def Obeys (d : Discipline κ) (ending : κ → Except Failure α → Prop) : κ → Pass α → Prop
  | known, .done a => ending known (.ok a)
  | known, .fail f => ending known (.error f)
  | known, .ask r next => d.allows known r ∧
      ∀ answer later, d.leads known r answer later → Obeys d ending later (next answer)

/-- How a pass has to end so that another one can follow. -/
def Continues (d : Discipline κ) (ending : κ → Except Failure β → Prop) (next : α → Pass β)
    (known : κ) : Except Failure α → Prop
  | .ok a => Obeys d ending known (next a)
  | .error f => ending known (.error f)

theorem obeys_bind {ending : κ → Except Failure β → Prop} {known : κ} {p : Pass α}
    {next : α → Pass β} :
    Obeys d ending known (p >>= next) ↔ Obeys d (Continues d ending next) known p := by
  change Obeys d ending known (p.andThen next) ↔ _
  induction p generalizing known with
  | done a => exact Iff.rfl
  | fail f => exact Iff.rfl
  | ask r rest ih =>
    refine and_congr_right fun _ => forall_congr' fun answer => forall_congr' fun later => ?_
    exact imp_congr_right fun _ => ih answer

theorem Obeys.mono {ending weaker : κ → Except Failure α → Prop} {known : κ} {p : Pass α}
    (obeys : Obeys d ending known p) (implies : ∀ known result, ending known result → weaker known result) :
    Obeys d weaker known p := by
  induction p generalizing known with
  | done a => exact implies _ _ obeys
  | fail f => exact implies _ _ obeys
  | ask r rest ih =>
    exact ⟨obeys.1, fun answer later leads => ih answer (obeys.2 answer later leads)⟩

theorem obeys_attempt {r : Request} {ending : κ → Except Failure r.Answer → Prop} {known : κ} :
    Obeys d ending known (attempt r) ↔ d.allows known r ∧
      ∀ answer later, d.leads known r answer later → ending later (.ok answer) :=
  Iff.rfl

theorem obeys_tokens {r : StoreRequest TokenSpec TokenStatus}
    {ending : κ → Except Failure r.Result → Prop} {known : κ} :
    Obeys d ending known (tokens r) ↔ d.allows known (.tokens r) ∧
      ∀ answer later, d.leads known (.tokens r) answer later →
        ending later (answer.mapError Failure.store) := by
  refine and_congr_right fun _ => forall_congr' fun answer => ?_
  cases answer <;> exact Iff.rfl

theorem obeys_bindings {r : StoreRequest BindingSpec BindingStatus}
    {ending : κ → Except Failure r.Result → Prop} {known : κ} :
    Obeys d ending known (bindings r) ↔ d.allows known (.bindings r) ∧
      ∀ answer later, d.leads known (.bindings r) answer later →
        ending later (answer.mapError Failure.store) := by
  refine and_congr_right fun _ => forall_congr' fun answer => ?_
  cases answer <;> exact Iff.rfl

theorem obeys_updates {r : StoreRequest DataUpdateSpec Unit}
    {ending : κ → Except Failure r.Result → Prop} {known : κ} :
    Obeys d ending known (updates r) ↔ d.allows known (.updates r) ∧
      ∀ answer later, d.leads known (.updates r) answer later →
        ending later (answer.mapError Failure.store) := by
  refine and_congr_right fun _ => forall_congr' fun answer => ?_
  cases answer <;> exact Iff.rfl

theorem obeys_vault {r : VaultRequest} {ending : κ → Except Failure r.Result → Prop} {known : κ} :
    Obeys d ending known (vault r) ↔ d.allows known (.vault r) ∧
      ∀ answer later, d.leads known (.vault r) answer later →
        ending later (answer.mapError Failure.vault) := by
  refine and_congr_right fun _ => forall_congr' fun answer => ?_
  cases answer <;> exact Iff.rfl

theorem obeys_provider {s : Service} {r : ProviderRequest}
    {ending : κ → Except Failure r.Result → Prop} {known : κ} :
    Obeys d ending known (provider s r) ↔ d.allows known (.provider s r) ∧
      ∀ answer later, d.leads known (.provider s r) answer later →
        ending later (answer.mapError Failure.provider) := by
  refine and_congr_right fun _ => forall_congr' fun answer => ?_
  cases answer <;> exact Iff.rfl

/-- A pass obeys a discipline that allows everything and an ending that everything fits. -/
theorem obeys_of_forall {ending : κ → Except Failure α → Prop} (allows : ∀ known r, d.allows known r)
    (ends : ∀ known result, ending known result) (p : Pass α) (known : κ) : Obeys d ending known p := by
  induction p generalizing known with
  | done a => exact ends known _
  | fail f => exact ends known _
  | ask r next ih => exact ⟨allows known r, fun answer later _ => ih answer later⟩

/-- A pass whose requests all belong to some kind, whatever it is answered. -/
def Asks (kind : Request → Prop) (p : Pass α) : Prop :=
  p.Obeys (⟨fun _ r => kind r, fun _ _ _ _ => True⟩ : Discipline Unit) (fun _ _ => True) ()

/-- A pass obeys each discipline that always allows what it asks for. -/
theorem Asks.obeys {kind : Request → Prop} {p : Pass α} (asks : p.Asks kind)
    (allowed : ∀ known r, kind r → d.allows known r) (known : κ) :
    p.Obeys d (fun _ _ => True) known := by
  induction p generalizing known with
  | done a => trivial
  | fail f => trivial
  | ask r next ih =>
    exact ⟨allowed known r asks.1, fun answer later _ => ih answer (asks.2 answer () trivial) later⟩

theorem Asks.weaken {kind wider : Request → Prop} {p : Pass α} (asks : p.Asks kind)
    (wide : ∀ r, kind r → wider r) : p.Asks wider :=
  asks.obeys (fun _ r belongs => wide r belongs) ()

theorem Asks.bind {kind : Request → Prop} {p : Pass α} {next : α → Pass β} (asks : p.Asks kind)
    (goesOn : ∀ a, (next a).Asks kind) : (p >>= next).Asks kind := by
  apply obeys_bind.mpr
  apply asks.mono
  intro _ result _
  cases result with
  | ok a => exact goesOn a
  | error f => trivial

theorem asks_pure {kind : Request → Prop} (a : α) : (pure a : Pass α).Asks kind := trivial

theorem asks_fail {kind : Request → Prop} (f : Failure) : (.fail f : Pass α).Asks kind := trivial

theorem asks_attempt {kind : Request → Prop} {r : Request} (belongs : kind r) :
    (attempt r).Asks kind :=
  ⟨belongs, fun _ _ _ => trivial⟩

theorem asks_tokens {kind : Request → Prop} {r : StoreRequest TokenSpec TokenStatus}
    (belongs : kind (.tokens r)) : (tokens r).Asks kind :=
  obeys_tokens.mpr ⟨belongs, fun _ _ _ => trivial⟩

theorem asks_bindings {kind : Request → Prop} {r : StoreRequest BindingSpec BindingStatus}
    (belongs : kind (.bindings r)) : (bindings r).Asks kind :=
  obeys_bindings.mpr ⟨belongs, fun _ _ _ => trivial⟩

theorem asks_updates {kind : Request → Prop} {r : StoreRequest DataUpdateSpec Unit}
    (belongs : kind (.updates r)) : (updates r).Asks kind :=
  obeys_updates.mpr ⟨belongs, fun _ _ _ => trivial⟩

theorem asks_vault {kind : Request → Prop} {r : VaultRequest} (belongs : kind (.vault r)) :
    (vault r).Asks kind :=
  obeys_vault.mpr ⟨belongs, fun _ _ _ => trivial⟩

theorem asks_provider {kind : Request → Prop} {s : Service} {r : ProviderRequest}
    (belongs : kind (.provider s r)) : (provider s r).Asks kind :=
  obeys_provider.mpr ⟨belongs, fun _ _ _ => trivial⟩

end Pass

end TokenSteward
