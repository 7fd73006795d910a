import TokenSteward.Cluster.Basic
import TokenSteward.Proofs.Cluster.Versions

/-! # Answers to requests

A cluster answers a request by carrying it out, unless it happens to be out of reach: then the
request fails without effect. What providers say is up to chance altogether. Every answer makes at
most one change to each of the three stores, so all that is kept by a change is kept by an answer.
-/

namespace TokenSteward

open TokenSteward.Resource TokenSteward.Secret TokenSteward.Provider TokenSteward.Cluster

/-- What providers answer, depending on nothing but what they are asked. -/
abbrev Word := (s : Service) → (r : ProviderRequest) → Except ProviderFailure r.Result

/-- What chance decides about one request: whether a store refuses it or the vault is out of order,
and what the providers say. -/
structure Chance where
  refusal : Option StoreFailure
  outage : Option VaultFailure
  word : (s : Service) → (r : ProviderRequest) → Except ProviderFailure r.Result

/-- Nothing fails that is not up to the providers. -/
def Chance.calm (word : (s : Service) → (r : ProviderRequest) → Except ProviderFailure r.Result) :
    Chance :=
  ⟨none, none, word⟩

/-- Nothing fails, and the providers are out of reach. -/
def Chance.quiet : Chance := .calm fun _ _ => .error (.unavailable "")

namespace Cluster

/-- The answer to a request, and the cluster then. -/
def answer (c : Cluster) (x : Chance) : (r : Request) → r.Answer × Cluster
  | .tokens r =>
    match x.refusal with
    | some f => (.error f, c)
    | none => ((c.tokens.perform c.now r).1, { c with tokens := (c.tokens.perform c.now r).2 })
  | .bindings r =>
    match x.refusal with
    | some f => (.error f, c)
    | none =>
      ((c.bindings.perform c.now r).1, { c with bindings := (c.bindings.perform c.now r).2 })
  | .updates r =>
    match x.refusal with
    | some f => (.error f, c)
    | none => ((c.updates.perform c.now r).1, { c with updates := (c.updates.perform c.now r).2 })
  | .vault r =>
    match x.outage with
    | some f => (.error f, c)
    | none => ((performVault c.vault r).1, { c with vault := (performVault c.vault r).2 })
  | .provider s r => (x.word s r, c)
  | .enqueue _ _ => ((), c)
  | .clock => (c.clock, c)
  | .pause _ => ((), c)

/-- The three stores are sound. -/
structure Sound (c : Cluster) : Prop where
  tokens : c.tokens.Sound
  bindings : c.bindings.Sound
  updates : c.updates.Sound

theorem sound_empty (outset : Cluster.Outset) : (empty outset).Sound :=
  ⟨Store.sound_empty _ _, Store.sound_empty _ _, Store.sound_empty _ _⟩

variable {c : Cluster}

theorem Sound.change_tokens (sound : c.Sound) (x : Chance) (r : Request) :
    Store.Change c.tokens (c.answer x r).2.tokens := by
  cases r with
  | tokens r =>
    simp only [answer]
    split
    · exact .kept
    · exact Store.change_perform sound.tokens c.now r
  | bindings r => simp only [answer]; split <;> exact .kept
  | updates r => simp only [answer]; split <;> exact .kept
  | vault r => simp only [answer]; split <;> exact .kept
  | _ => exact .kept

theorem Sound.change_bindings (sound : c.Sound) (x : Chance) (r : Request) :
    Store.Change c.bindings (c.answer x r).2.bindings := by
  cases r with
  | bindings r =>
    simp only [answer]
    split
    · exact .kept
    · exact Store.change_perform sound.bindings c.now r
  | tokens r => simp only [answer]; split <;> exact .kept
  | updates r => simp only [answer]; split <;> exact .kept
  | vault r => simp only [answer]; split <;> exact .kept
  | _ => exact .kept

theorem Sound.change_updates (sound : c.Sound) (x : Chance) (r : Request) :
    Store.Change c.updates (c.answer x r).2.updates := by
  cases r with
  | updates r =>
    simp only [answer]
    split
    · exact .kept
    · exact Store.change_perform sound.updates c.now r
  | tokens r => simp only [answer]; split <;> exact .kept
  | bindings r => simp only [answer]; split <;> exact .kept
  | vault r => simp only [answer]; split <;> exact .kept
  | _ => exact .kept

/-- Answers keep a cluster sound. -/
theorem Sound.answer (sound : c.Sound) (x : Chance) (r : Request) : (c.answer x r).2.Sound :=
  ⟨sound.tokens.change (sound.change_tokens x r), sound.bindings.change (sound.change_bindings x r),
    sound.updates.change (sound.change_updates x r)⟩

/-- Only requests to the tokens' store change it. -/
theorem tokens_answer (c : Cluster) (x : Chance) (r : Request) (other : ∀ s, r ≠ .tokens s) :
    (c.answer x r).2.tokens = c.tokens := by
  cases r with
  | tokens s => exact absurd rfl (other s)
  | bindings r => simp only [Cluster.answer]; split <;> rfl
  | updates r => simp only [Cluster.answer]; split <;> rfl
  | vault r => simp only [Cluster.answer]; split <;> rfl
  | _ => rfl

/-- Only requests to the bindings' store change it. -/
theorem bindings_answer (c : Cluster) (x : Chance) (r : Request) (other : ∀ s, r ≠ .bindings s) :
    (c.answer x r).2.bindings = c.bindings := by
  cases r with
  | bindings s => exact absurd rfl (other s)
  | tokens r => simp only [Cluster.answer]; split <;> rfl
  | updates r => simp only [Cluster.answer]; split <;> rfl
  | vault r => simp only [Cluster.answer]; split <;> rfl
  | _ => rfl

/-- Only requests to the updates' store change it. -/
theorem updates_answer (c : Cluster) (x : Chance) (r : Request) (other : ∀ s, r ≠ .updates s) :
    (c.answer x r).2.updates = c.updates := by
  cases r with
  | updates s => exact absurd rfl (other s)
  | tokens r => simp only [Cluster.answer]; split <;> rfl
  | bindings r => simp only [Cluster.answer]; split <;> rfl
  | vault r => simp only [Cluster.answer]; split <;> rfl
  | _ => rfl

/-- Only requests to the vault change it. -/
theorem vault_answer (c : Cluster) (x : Chance) (r : Request) (other : ∀ v, r ≠ .vault v) :
    (c.answer x r).2.vault = c.vault := by
  cases r with
  | vault v => exact absurd rfl (other v)
  | tokens r => simp only [Cluster.answer]; split <;> rfl
  | bindings r => simp only [Cluster.answer]; split <;> rfl
  | updates r => simp only [Cluster.answer]; split <;> rfl
  | _ => rfl

/-- A cluster that may be there later: after any number of answers, and at any time. -/
inductive Later (c : Cluster) : Cluster → Prop where
  | now : Later c c
  | answer {c' : Cluster} (later : Later c c') (x : Chance) (r : Request) :
      Later c (c'.answer x r).2
  | clock {c' : Cluster} (later : Later c c') (clock : Int64) : Later c { c' with clock := clock }

theorem Later.trans {c' c'' : Cluster} (first : c.Later c') (second : c'.Later c'') : c.Later c'' := by
  induction second with
  | now => exact first
  | answer _ x r ih => exact ih.answer x r
  | clock _ clock ih => exact ih.clock clock

theorem Sound.later {c' : Cluster} (sound : c.Sound) (later : c.Later c') : c'.Sound := by
  induction later with
  | now => exact sound
  | answer _ x r ih => exact ih.answer x r
  | clock _ _ ih => exact ⟨ih.tokens, ih.bindings, ih.updates⟩

/-- A copy of a token stays one. -/
theorem Sound.token_later {c' : Cluster} (sound : c.Sound) (later : c.Later c') {t : AccessToken}
    (copy : c.tokens.Snapshot t) : c'.tokens.Snapshot t := by
  induction later with
  | now => exact copy
  | answer before x r ih => exact ih.change ((sound.later before).change_tokens x r)
  | clock _ _ ih => exact ih

/-- A copy of a binding stays one. -/
theorem Sound.snapshot_later {c' : Cluster} (sound : c.Sound) (later : c.Later c') {b : Binding}
    (copy : c.bindings.Snapshot b) : c'.bindings.Snapshot b := by
  induction later with
  | now => exact copy
  | answer before x r ih => exact ih.change ((sound.later before).change_bindings x r)
  | clock _ _ ih => exact ih

/-- A request to the tokens' store fails without effect, or is carried out. -/
theorem answer_tokens_cases (c : Cluster) (x : Chance) (r : StoreRequest TokenSpec TokenStatus) :
    (∃ f, c.answer x (.tokens r) = (.error f, c)) ∨
      ((c.answer x (.tokens r)).1 = (c.tokens.perform c.now r).1 ∧
        (c.answer x (.tokens r)).2.tokens = (c.tokens.perform c.now r).2) := by
  simp only [Cluster.answer]
  split
  · exact .inl ⟨_, rfl⟩
  · exact .inr ⟨rfl, rfl⟩

/-- A request to the bindings' store fails without effect, or is carried out. -/
theorem answer_bindings_cases (c : Cluster) (x : Chance) (r : StoreRequest BindingSpec BindingStatus) :
    (∃ f, c.answer x (.bindings r) = (.error f, c)) ∨
      ((c.answer x (.bindings r)).1 = (c.bindings.perform c.now r).1 ∧
        (c.answer x (.bindings r)).2.bindings = (c.bindings.perform c.now r).2) := by
  simp only [Cluster.answer]
  split
  · exact .inl ⟨_, rfl⟩
  · exact .inr ⟨rfl, rfl⟩

/-- A request to the updates' store fails without effect, or is carried out. -/
theorem answer_updates_cases (c : Cluster) (x : Chance) (r : StoreRequest DataUpdateSpec Unit) :
    (∃ f, c.answer x (.updates r) = (.error f, c)) ∨
      ((c.answer x (.updates r)).1 = (c.updates.perform c.now r).1 ∧
        (c.answer x (.updates r)).2.updates = (c.updates.perform c.now r).2) := by
  simp only [Cluster.answer]
  split
  · exact .inl ⟨_, rfl⟩
  · exact .inr ⟨rfl, rfl⟩

/-- Reading a token changes nothing. -/
theorem answer_read_token (c : Cluster) (x : Chance) (k : Key) : (c.answer x (.tokens (.get k))).2 = c := by
  simp only [Cluster.answer]
  split <;> rfl

/-- Reading a binding changes nothing. -/
theorem answer_read_binding (c : Cluster) (x : Chance) (k : Key) :
    (c.answer x (.bindings (.get k))).2 = c := by
  simp only [Cluster.answer]
  split <;> rfl

/-- What is read of tokens is what is there. -/
theorem token_of_read {x : Chance} {k : Key} {found : Option AccessToken}
    (said : .ok found = (c.answer x (.tokens (.get k))).1) : c.tokens.get? k = found := by
  rcases answer_tokens_cases c x (.get k) with ⟨f, failed⟩ | ⟨answered, _⟩
  · rw [failed] at said
    contradiction
  · exact (Except.ok.inj (said.trans answered)).symm

/-- What is read of bindings is what is there. -/
theorem binding_of_read {x : Chance} {k : Key} {found : Option Binding}
    (said : .ok found = (c.answer x (.bindings (.get k))).1) : c.bindings.get? k = found := by
  rcases answer_bindings_cases c x (.get k) with ⟨f, failed⟩ | ⟨answered, _⟩
  · rw [failed] at said
    contradiction
  · exact (Except.ok.inj (said.trans answered)).symm

end Cluster

end TokenSteward
