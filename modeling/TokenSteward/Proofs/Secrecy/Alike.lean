import TokenSteward.Pass.Announced
import TokenSteward.Proofs.Cluster.Chances
import TokenSteward.Proofs.Pass.Guards
import TokenSteward.Proofs.Pass.Requests

/-! # Passes that differ in secrets alone

Two clusters are alike if they differ only in the records of their vaults, and only in records that
are counterparts of each other. Two passes are alike if they ask for the same and go on alike, where a
record in one stands for its counterpart in the other, and end alike. What is alike stays so by every
answer, as long as providers take counterparts for the same.
-/

namespace TokenSteward

open TokenSteward.Cluster TokenSteward.Resource TokenSteward.Secret TokenSteward.Provider

/-- A request that no record belongs to, and to whose answer none does. -/
def Cluster.Request.Plain : Request → Prop
  | .vault (.delete _) => True
  | .vault _ => False
  | .provider _ (.lookup _) => True
  | .provider _ _ => False
  | _ => True

variable {pairs : Record → Record → Prop}

/-- Two tables have entries at the same keys, each the counterpart of the other. -/
def Table.Alike {κ ν : Type} [Ordered κ] (pairs : ν → ν → Prop) (t t' : Table κ ν) : Prop :=
  ∀ k, Option.Rel pairs (t.get? k) (t'.get? k)

section

variable {κ ν : Type} [Ordered κ] {pairs : ν → ν → Prop} {t t' : Table κ ν}

theorem Table.Alike.insert (alike : t.Alike pairs t') (k : κ) {a b : ν} (pair : pairs a b) :
    (t.insert k a).Alike pairs (t'.insert k b) := by
  intro j
  rw [Table.get?_insert, Table.get?_insert]
  split
  · exact alike j
  · exact .some pair

theorem Table.Alike.erase (alike : t.Alike pairs t') (k : κ) :
    (t.erase k).Alike pairs (t'.erase k) := by
  intro j
  rw [Table.get?_erase, Table.get?_erase]
  split
  · exact alike j
  · exact .none

end

/-- The same is refused by two chances, and providers take counterparts for the same. -/
structure Chance.Alike (pairs : Record → Record → Prop) (x y : Chance) : Prop where
  refusal : x.refusal = y.refusal
  outage : x.outage = y.outage
  lookup : ∀ s b, x.word s (.lookup b) = y.word s (.lookup b)
  validate : ∀ s wanted {a b}, pairs a b →
    x.word s (.validate a wanted) = y.word s (.validate b wanted)
  persist : ∀ s owner {a b}, pairs a b →
    x.word s (.persist owner a) = y.word s (.persist owner b)

namespace Cluster

/-- Two clusters differ only in records that are counterparts of each other. -/
structure Alike (pairs : Record → Record → Prop) (c c' : Cluster) : Prop where
  tokens : c.tokens = c'.tokens
  bindings : c.bindings = c'.bindings
  updates : c.updates = c'.updates
  clock : c.clock = c'.clock
  vault : c.vault.Alike pairs c'.vault

/-- What two vaults answer who are asked for a record. -/
inductive Told (pairs : Record → Record → Prop) :
    Except VaultFailure (Option Record) → Except VaultFailure (Option Record) → Prop where
  | ok {a b : Option Record} (alike : Option.Rel pairs a b) : Told pairs (.ok a) (.ok b)
  | error (f : VaultFailure) : Told pairs (.error f) (.error f)

variable {c c' : Cluster} {x y : Chance}

/-- To a plain request clusters that are alike give the same answer. -/
theorem Alike.answer (alike : c.Alike pairs c') (chance : x.Alike pairs y) {r : Request}
    (plain : r.Plain) : (c.answer x r).1 = (c'.answer y r).1 ∧
      (c.answer x r).2.Alike pairs (c'.answer y r).2 := by
  obtain ⟨tokens, bindings, updates, vault, clock⟩ := c
  obtain ⟨tokens', bindings', updates', vault', clock'⟩ := c'
  obtain ⟨rfl, rfl, rfl, rfl, records⟩ := alike
  obtain ⟨refusal, outage, word⟩ := x
  obtain ⟨refusal', outage', word'⟩ := y
  obtain ⟨rfl, rfl, lookup, -, -⟩ := chance
  cases r with
  | tokens r => cases refusal <;> exact ⟨rfl, rfl, rfl, rfl, rfl, records⟩
  | bindings r => cases refusal <;> exact ⟨rfl, rfl, rfl, rfl, rfl, records⟩
  | updates r => cases refusal <;> exact ⟨rfl, rfl, rfl, rfl, rfl, records⟩
  | vault r =>
    cases r with
    | store owner r => exact plain.elim
    | get owner => exact plain.elim
    | delete owner =>
      cases outage with
      | none => exact ⟨rfl, rfl, rfl, rfl, rfl, records.erase _⟩
      | some f => exact ⟨rfl, rfl, rfl, rfl, rfl, records⟩
  | provider s r =>
    cases r with
    | validate r wanted => exact plain.elim
    | lookup b => exact ⟨lookup s b, rfl, rfl, rfl, rfl, records⟩
    | persist owner r => exact plain.elim
  | enqueue queue k => exact ⟨rfl, rfl, rfl, rfl, rfl, records⟩
  | clock => exact ⟨rfl, rfl, rfl, rfl, rfl, records⟩
  | pause span => exact ⟨rfl, rfl, rfl, rfl, rfl, records⟩

theorem Alike.get (alike : c.Alike pairs c') (chance : x.Alike pairs y) (owner : AccessToken) :
    Told pairs (c.answer x (.vault (.get owner))).1 (c'.answer y (.vault (.get owner))).1 ∧
      (c.answer x (.vault (.get owner))).2.Alike pairs (c'.answer y (.vault (.get owner))).2 := by
  simp only [Cluster.answer, ← chance.outage]
  cases x.outage with
  | none => exact ⟨.ok (alike.vault _), alike⟩
  | some f => exact ⟨.error f, alike⟩

theorem Alike.store (alike : c.Alike pairs c') (chance : x.Alike pairs y) (owner : AccessToken)
    {a b : Record} (pair : pairs a b) :
    (c.answer x (.vault (.store owner a))).1 = (c'.answer y (.vault (.store owner b))).1 ∧
      (c.answer x (.vault (.store owner a))).2.Alike pairs
        (c'.answer y (.vault (.store owner b))).2 := by
  simp only [Cluster.answer, ← chance.outage]
  cases x.outage with
  | none =>
    exact ⟨rfl, alike.tokens, alike.bindings, alike.updates, alike.clock, alike.vault.insert _ pair⟩
  | some f => exact ⟨rfl, alike⟩

end Cluster

/-! ## Passes -/

namespace Pass

variable {α β γ δ : Type}

/-- Two passes ask for the same and go on alike. -/
inductive Alike (pairs : Record → Record → Prop) (ends : α → β → Prop) : Pass α → Pass β → Prop where
  | done {a : α} {b : β} (alike : ends a b) : Alike pairs ends (.done a) (.done b)
  | fail (f : Failure) : Alike pairs ends (.fail f) (.fail f)
  | asks {r : Request} (plain : r.Plain) {next : r.Answer → Pass α} {next' : r.Answer → Pass β}
      (goesOn : ∀ a, Alike pairs ends (next a) (next' a)) :
      Alike pairs ends (.ask r next) (.ask r next')
  | reads (owner : AccessToken) {next : (Request.vault (.get owner)).Answer → Pass α}
      {next' : (Request.vault (.get owner)).Answer → Pass β}
      (goesOn : ∀ a b, Told pairs a b → Alike pairs ends (next a) (next' b)) :
      Alike pairs ends (.ask (.vault (.get owner)) next) (.ask (.vault (.get owner)) next')
  | stores (owner : AccessToken) {a b : Record} (pair : pairs a b)
      {next : Except VaultFailure Unit → Pass α} {next' : Except VaultFailure Unit → Pass β}
      (goesOn : ∀ answer, Alike pairs ends (next answer) (next' answer)) :
      Alike pairs ends (.ask (.vault (.store owner a)) next) (.ask (.vault (.store owner b)) next')
  | validates (s : Service) (wanted : Permissions) {a b : Record} (pair : pairs a b)
      {next : Except ProviderFailure Validation → Pass α}
      {next' : Except ProviderFailure Validation → Pass β}
      (goesOn : ∀ answer, Alike pairs ends (next answer) (next' answer)) :
      Alike pairs ends (.ask (.provider s (.validate a wanted)) next)
        (.ask (.provider s (.validate b wanted)) next')
  | persists (s : Service) (owner : AccessToken) {a b : Record} (pair : pairs a b)
      {next : Except ProviderFailure Holder → Pass α}
      {next' : Except ProviderFailure Holder → Pass β}
      (goesOn : ∀ answer, Alike pairs ends (next answer) (next' answer)) :
      Alike pairs ends (.ask (.provider s (.persist owner a)) next)
        (.ask (.provider s (.persist owner b)) next')

variable {ends : α → β → Prop} {ends' : γ → δ → Prop}

/-- Passes that are alike and followed by such are alike. -/
theorem Alike.bind {p : Pass α} {p' : Pass β} {next : α → Pass γ} {next' : β → Pass δ}
    (alike : p.Alike pairs ends p')
    (goesOn : ∀ a b, ends a b → (next a).Alike pairs ends' (next' b)) :
    (p >>= next).Alike pairs ends' (p' >>= next') := by
  induction alike with
  | done alike => exact goesOn _ _ alike
  | fail f => exact .fail f
  | asks plain _ ih => exact .asks plain ih
  | reads owner _ ih => exact .reads owner ih
  | stores owner pair _ ih => exact .stores owner pair ih
  | validates s wanted pair _ ih => exact .validates s wanted pair ih
  | persists s owner pair _ ih => exact .persists s owner pair ih

/-- A pass that asks for what is plain is like itself. -/
theorem Asks.alike {p : Pass α} (asks : p.Asks Request.Plain) : p.Alike pairs Eq p := by
  induction p with
  | done a => exact .done rfl
  | fail f => exact .fail f
  | ask r next ih => exact .asks asks.1 fun answer => ih answer (asks.2 answer () trivial)

/-- Passes that are alike go on alike whatever clusters that are alike answer them. -/
theorem Alike.answered {r r' : Request} {next : r.Answer → Pass α} {next' : r'.Answer → Pass β}
    (alike : (Pass.ask r next).Alike pairs ends (.ask r' next')) {c c' : Cluster}
    (clusters : c.Alike pairs c') {x y : Chance} (chance : x.Alike pairs y) :
    (next (c.answer x r).1).Alike pairs ends (next' (c'.answer y r').1) ∧
      (c.answer x r).2.Alike pairs (c'.answer y r').2 := by
  cases alike with
  | asks plain goesOn =>
    obtain ⟨same, later⟩ := clusters.answer chance plain
    exact ⟨same ▸ goesOn _, later⟩
  | reads owner goesOn =>
    obtain ⟨told, later⟩ := clusters.get chance owner
    exact ⟨goesOn _ _ told, later⟩
  | stores owner pair goesOn =>
    obtain ⟨same, later⟩ := clusters.store chance owner pair
    exact ⟨same ▸ goesOn _, later⟩
  | @validates s wanted a b pair next next' goesOn =>
    have same : (c.answer x (.provider s (.validate a wanted))).1 =
        (c'.answer y (.provider s (.validate b wanted))).1 := chance.validate s wanted pair
    exact ⟨same ▸ goesOn _, clusters⟩
  | @persists s owner a b pair next next' goesOn =>
    have same : (c.answer x (.provider s (.persist owner a))).1 =
        (c'.answer y (.provider s (.persist owner b))).1 := chance.persist s owner pair
    exact ⟨same ▸ goesOn _, clusters⟩

/-- The result of a pass that has ended. -/
def result? : Pass α → Option (Except Failure α)
  | .done a => some (.ok a)
  | .fail f => some (.error f)
  | .ask _ _ => none

/-- Passes that are alike have the same result. -/
theorem Alike.result? {p p' : Pass α} (alike : p.Alike pairs Eq p') : p.result? = p'.result? := by
  cases alike with
  | done same => rw [same]
  | _ => rfl

end Pass

/-! ## The passes over objects -/

open Pass

theorem Announced.alike_announce (owner : AccessToken) :
    (Announced.announce owner).Alike pairs Eq (Announced.announce owner) := by
  apply Asks.alike
  apply (asks_attempt trivial).bind
  intro answer
  split
  · exact asks_pure _
  · exact asks_fail _

/-- Announced writes of counterparts are alike. -/
theorem Announced.alike_store (owner : AccessToken) {a b : Record} (pair : pairs a b) :
    (Announced.store owner a).Alike pairs Eq (Announced.store owner b) := by
  refine Alike.stores owner pair fun answer => ?_
  cases answer with
  | ok u => exact alike_announce owner
  | error f => exact .fail _

theorem Announced.alike_delete (owner : AccessToken) :
    (Announced.delete owner).Alike pairs Eq (Announced.delete owner) := by
  refine Alike.asks (show Request.Plain (.vault (.delete owner)) from trivial) fun answer => ?_
  cases answer with
  | ok u => exact alike_announce owner
  | error f => exact .fail _

theorem TokenDesk.alike_awaitingStatus (d : TokenDesk) (t : AccessToken) (s : Service) :
    (d.awaitingStatus t s).Alike pairs Eq (d.awaitingStatus t s) := by
  apply Asks.alike
  unfold awaitingStatus
  split
  · exact asks_pure _
  · dsimp only
    split
    · exact asks_pure _
    · exact (asks_attempt trivial).bind fun now => asks_pure _

/-- Of a record nothing but what a provider says of it makes a difference to the status of a token. -/
theorem TokenDesk.alike_desiredStatus (d : TokenDesk) (t : AccessToken) :
    (d.desiredStatus t).Alike pairs Eq (d.desiredStatus t) := by
  unfold desiredStatus
  split
  · exact .done rfl
  · next s _ =>
    refine Alike.reads t fun found found' told => ?_
    cases told with
    | error f => exact .fail _
    | ok alike =>
      cases alike with
      | none => exact d.alike_awaitingStatus t s
      | some pair =>
        refine Alike.validates s _ pair fun answer => ?_
        cases answer with
        | error f => exact .fail _
        | ok validation =>
          change Pass.Alike pairs Eq (if _ then _ else _) (if _ then _ else _)
          split
          · exact .done rfl
          · refine Alike.persists s t pair fun answer => ?_
            cases answer with
            | ok holder => exact .done rfl
            | error f =>
              change Pass.Alike pairs Eq (if _ then _ else _) (if _ then _ else _)
              split
              · exact .done rfl
              · exact .fail _

theorem TokenDesk.alike_work (d : TokenDesk) (t : AccessToken) :
    (d.work t).Alike pairs Eq (d.work t) := by
  apply (d.alike_desiredStatus t).bind
  rintro status _ rfl
  apply Asks.alike
  split
  · exact (asks_tokens trivial).bind fun _ => asks_pure _
  · exact asks_pure _

theorem TokenDesk.alike_finalize (d : TokenDesk) (t : AccessToken) :
    (d.finalize t).Alike pairs Eq (d.finalize t) :=
  ((asks_finalize d t).weaken fun r lets => by cases lets <;> trivial).alike

theorem TokenDesk.alike_pass (d : TokenDesk) (k : Key) :
    (d.pass k).Alike pairs Eq (d.pass k) := by
  rw [pass_eq]
  apply (Asks.alike (asks_tokens trivial)).bind
  rintro found _ rfl
  cases found with
  | none => exact .done rfl
  | some t =>
    dsimp only
    split
    · exact d.alike_finalize t
    · split
      · apply (Asks.alike (asks_tokens trivial)).bind
        rintro t _ rfl
        exact d.alike_work t
      · exact d.alike_work t

theorem BindingDesk.alike_pass (d : BindingDesk) (k : Key) :
    (d.pass k).Alike pairs Eq (d.pass k) :=
  ((d.asks_pass k).weaken fun r asks => by cases asks <;> trivial).alike

theorem UpdateDesk.alike_pass (d : UpdateDesk) (k : Key) :
    (d.pass k).Alike pairs Eq (d.pass k) :=
  ((d.asks_pass k).weaken fun r asks => by cases asks <;> trivial).alike

end TokenSteward
