import TokenSteward.Proofs.Pass.Play

/-! # The steps of a pass

A step of a pass is a request together with the exchanges before it. What a pass was answered leads
to its next request or to its result, and for a pass that is made of others it splits in the same way
as the pass does. So all steps of a pass are found by following its text once, and what is found
holds of every play: whatever others do in between, and wherever the pass is given up.
-/

namespace TokenSteward

open TokenSteward.Cluster TokenSteward.Resource TokenSteward.Secret TokenSteward.Provider

/-- Whether an answer is a failure. -/
def failed : (r : Request) → r.Answer → Bool
  | .tokens _, .error _ => true
  | .bindings _, .error _ => true
  | .updates _, .error _ => true
  | .vault _, .error _ => true
  | .provider _ _, .error _ => true
  | _, _ => false

namespace Exchange

/-- An exchange consists of a request and an answer. -/
def Tells (x : Exchange) (r : Request) (a : r.Answer) : Prop :=
  ∃ met c, x = ⟨met, c, r⟩ ∧ (⟨met, c, r⟩ : Exchange).answer = a

theorem Tells.request {x : Exchange} {r : Request} {a : r.Answer} (tells : x.Tells r a) :
    x.request = r := by
  obtain ⟨met, c, rfl, _⟩ := tells
  rfl

/-- An exchange has one answer. -/
theorem Tells.answer_unique {x : Exchange} {r : Request} {a b : r.Answer} (tells : x.Tells r a)
    (other : x.Tells r b) : a = b := by
  obtain ⟨met, c, rfl, rfl⟩ := tells
  obtain ⟨met', c', same, rfl⟩ := other
  cases same
  rfl

/-- An exchange met a cluster that is later than what another one has left. -/
def Before (y x : Exchange) : Prop := y.left.Later x.cluster

/-- A request to the tokens that was answered was carried out. -/
theorem Tells.tokens {x : Exchange} {r : StoreRequest TokenSpec TokenStatus} {a : r.Result}
    (tells : x.Tells (.tokens r) (.ok a)) :
    x.cluster.tokens.perform x.cluster.now r = (.ok a, x.left.tokens) := by
  obtain ⟨met, c, rfl, said⟩ := tells
  obtain ⟨answered, served⟩ := tokens_served said.symm
  exact Prod.ext answered served.symm

/-- A request to the bindings that was answered was carried out. -/
theorem Tells.bindings {x : Exchange} {r : StoreRequest BindingSpec BindingStatus} {a : r.Result}
    (tells : x.Tells (.bindings r) (.ok a)) :
    x.cluster.bindings.perform x.cluster.now r = (.ok a, x.left.bindings) := by
  obtain ⟨met, c, rfl, said⟩ := tells
  obtain ⟨answered, served⟩ := bindings_served said.symm
  exact Prod.ext answered served.symm

/-- The request of an exchange was answered by a failure. -/
def Fails (x : Exchange) : Prop := failed x.request x.answer = true

instance (x : Exchange) : Decidable x.Fails := inferInstanceAs (Decidable (_ = true))

theorem Tells.fails {x : Exchange} {r : Request} {a : r.Answer} (tells : x.Tells r a) :
    x.Fails ↔ failed r a = true := by
  obtain ⟨met, c, rfl, rfl⟩ := tells
  exact Iff.rfl

/-- A request to the tokens fails or is answered. -/
theorem tokens_cases {x : Exchange} {r : StoreRequest TokenSpec TokenStatus}
    (asks : x.request = .tokens r) : x.Fails ∨ ∃ a, x.Tells (.tokens r) (.ok a) := by
  obtain ⟨met, c, _⟩ := x
  subst asks
  cases said : (⟨met, c, .tokens r⟩ : Exchange).answer with
  | error f => exact .inl ((Tells.fails ⟨met, c, rfl, said⟩).mpr rfl)
  | ok a => exact .inr ⟨a, met, c, rfl, said⟩

/-- A request to the bindings fails or is answered. -/
theorem bindings_cases {x : Exchange} {r : StoreRequest BindingSpec BindingStatus}
    (asks : x.request = .bindings r) : x.Fails ∨ ∃ a, x.Tells (.bindings r) (.ok a) := by
  obtain ⟨met, c, _⟩ := x
  subst asks
  cases said : (⟨met, c, .bindings r⟩ : Exchange).answer with
  | error f => exact .inl ((Tells.fails ⟨met, c, rfl, said⟩).mpr rfl)
  | ok a => exact .inr ⟨a, met, c, rfl, said⟩

/-- A request that fails has no effect. -/
theorem left_of_fails {x : Exchange} (fails : x.Fails) : x.left = x.cluster := by
  obtain ⟨met, c, r⟩ := x
  unfold Fails at fails
  simp only [left, answer] at fails ⊢
  cases r with
  | tokens r =>
    simp only [Cluster.answer] at fails ⊢
    split
    · rfl
    · next served =>
      cases said : (met.cluster.tokens.perform met.cluster.now r).1 with
      | error f => rw [Store.perform_of_error said]
      | ok a => simp [served, said, failed] at fails
  | bindings r =>
    simp only [Cluster.answer] at fails ⊢
    split
    · rfl
    · next served =>
      cases said : (met.cluster.bindings.perform met.cluster.now r).1 with
      | error f => rw [Store.perform_of_error said]
      | ok a => simp [served, said, failed] at fails
  | updates r =>
    simp only [Cluster.answer] at fails ⊢
    split
    · rfl
    · next served =>
      cases said : (met.cluster.updates.perform met.cluster.now r).1 with
      | error f => rw [Store.perform_of_error said]
      | ok a => simp [served, said, failed] at fails
  | vault r =>
    simp only [Cluster.answer] at fails ⊢
    split
    · rfl
    · next served => cases r <;> simp [served, failed, performVault] at fails
  | _ => rfl

end Exchange

namespace Pass

variable {α β : Type}

/-! ## Answers and results -/

/-- A pass that goes through some exchanges ends with a result. -/
def Yields : Pass α → List Exchange → Except Failure α → Prop
  | .done a, past, result => past = [] ∧ result = .ok a
  | .fail f, past, result => past = [] ∧ result = .error f
  | .ask r next, past, result => ∃ x answer rest, past = x :: rest ∧ x.Tells r answer ∧
      Yields (next answer) rest result

/-- A pass that goes through some exchanges asks for something next. -/
def Reaches : Pass α → List Exchange → Request → Prop
  | .done _, _, _ => False
  | .fail _, _, _ => False
  | .ask r next, past, wanted => (past = [] ∧ wanted = r) ∨
      ∃ x answer rest, past = x :: rest ∧ x.Tells r answer ∧ Reaches (next answer) rest wanted

variable {past : List Exchange}

theorem yields_pure {a : α} {result : Except Failure α} :
    (pure a : Pass α).Yields past result ↔ past = [] ∧ result = .ok a :=
  Iff.rfl

theorem yields_attempt {r : Request} {result : Except Failure r.Answer} :
    (attempt r).Yields past result ↔
      ∃ x answer, past = [x] ∧ x.Tells r answer ∧ result = .ok answer := by
  constructor
  · rintro ⟨x, answer, _, rfl, tells, rfl, rfl⟩
    exact ⟨x, answer, rfl, tells, rfl⟩
  · rintro ⟨x, answer, rfl, tells, rfl⟩
    exact ⟨x, answer, [], rfl, tells, rfl, rfl⟩

theorem yields_tokens {r : StoreRequest TokenSpec TokenStatus} {a : r.Result} :
    (tokens r).Yields past (.ok a) ↔ ∃ x, past = [x] ∧ x.Tells (.tokens r) (.ok a) := by
  constructor
  · rintro ⟨x, f | b, _, rfl, tells, rfl, same⟩
    · contradiction
    · exact ⟨x, rfl, Except.ok.inj same ▸ tells⟩
  · rintro ⟨x, rfl, tells⟩
    exact ⟨x, .ok a, [], rfl, tells, rfl, rfl⟩

theorem yields_bindings {r : StoreRequest BindingSpec BindingStatus} {a : r.Result} :
    (bindings r).Yields past (.ok a) ↔ ∃ x, past = [x] ∧ x.Tells (.bindings r) (.ok a) := by
  constructor
  · rintro ⟨x, f | b, _, rfl, tells, rfl, same⟩
    · contradiction
    · exact ⟨x, rfl, Except.ok.inj same ▸ tells⟩
  · rintro ⟨x, rfl, tells⟩
    exact ⟨x, .ok a, [], rfl, tells, rfl, rfl⟩

theorem yields_updates {r : StoreRequest DataUpdateSpec Unit} {a : r.Result} :
    (updates r).Yields past (.ok a) ↔ ∃ x, past = [x] ∧ x.Tells (.updates r) (.ok a) := by
  constructor
  · rintro ⟨x, f | b, _, rfl, tells, rfl, same⟩
    · contradiction
    · exact ⟨x, rfl, Except.ok.inj same ▸ tells⟩
  · rintro ⟨x, rfl, tells⟩
    exact ⟨x, .ok a, [], rfl, tells, rfl, rfl⟩

theorem yields_tokens_iff {r : StoreRequest TokenSpec TokenStatus} {result : Except Failure r.Result} :
    (tokens r).Yields past result ↔
      ∃ x answer, past = [x] ∧ x.Tells (.tokens r) answer ∧ result = answer.mapError .store := by
  constructor
  · rintro ⟨x, f | a, _, rfl, tells, rfl, rfl⟩
    · exact ⟨x, .error f, rfl, tells, rfl⟩
    · exact ⟨x, .ok a, rfl, tells, rfl⟩
  · rintro ⟨x, f | a, rfl, tells, rfl⟩
    · exact ⟨x, .error f, [], rfl, tells, rfl, rfl⟩
    · exact ⟨x, .ok a, [], rfl, tells, rfl, rfl⟩

theorem yields_bindings_iff {r : StoreRequest BindingSpec BindingStatus}
    {result : Except Failure r.Result} :
    (bindings r).Yields past result ↔
      ∃ x answer, past = [x] ∧ x.Tells (.bindings r) answer ∧ result = answer.mapError .store := by
  constructor
  · rintro ⟨x, f | a, _, rfl, tells, rfl, rfl⟩
    · exact ⟨x, .error f, rfl, tells, rfl⟩
    · exact ⟨x, .ok a, rfl, tells, rfl⟩
  · rintro ⟨x, f | a, rfl, tells, rfl⟩
    · exact ⟨x, .error f, [], rfl, tells, rfl, rfl⟩
    · exact ⟨x, .ok a, [], rfl, tells, rfl, rfl⟩

theorem yields_vault {r : VaultRequest} {result : Except Failure r.Result} :
    (vault r).Yields past result ↔
      ∃ x answer, past = [x] ∧ x.Tells (.vault r) answer ∧ result = answer.mapError .vault := by
  constructor
  · rintro ⟨x, f | a, _, rfl, tells, rfl, rfl⟩
    · exact ⟨x, .error f, rfl, tells, rfl⟩
    · exact ⟨x, .ok a, rfl, tells, rfl⟩
  · rintro ⟨x, f | a, rfl, tells, rfl⟩
    · exact ⟨x, .error f, [], rfl, tells, rfl, rfl⟩
    · exact ⟨x, .ok a, [], rfl, tells, rfl, rfl⟩

theorem yields_provider {s : Service} {r : ProviderRequest} {result : Except Failure r.Result} :
    (provider s r).Yields past result ↔
      ∃ x answer, past = [x] ∧ x.Tells (.provider s r) answer ∧ result = answer.mapError .provider := by
  constructor
  · rintro ⟨x, f | a, _, rfl, tells, rfl, rfl⟩
    · exact ⟨x, .error f, rfl, tells, rfl⟩
    · exact ⟨x, .ok a, rfl, tells, rfl⟩
  · rintro ⟨x, f | a, rfl, tells, rfl⟩
    · exact ⟨x, .error f, [], rfl, tells, rfl, rfl⟩
    · exact ⟨x, .ok a, [], rfl, tells, rfl, rfl⟩

/-- A pass that is made of two fails in the first, or the second gives the result. -/
theorem yields_bind {p : Pass α} {next : α → Pass β} {result : Except Failure β} :
    (p >>= next).Yields past result ↔
      (∃ f, p.Yields past (.error f) ∧ result = .error f) ∨
        ∃ first second a, past = first ++ second ∧ p.Yields first (.ok a) ∧
          (next a).Yields second result := by
  change (p.andThen next).Yields past result ↔ _
  induction p generalizing past with
  | done a =>
    constructor
    · exact fun goesOn => .inr ⟨[], past, a, rfl, ⟨rfl, rfl⟩, goesOn⟩
    · rintro (⟨_, ⟨_, failed⟩, _⟩ | ⟨_, second, _, rfl, ⟨rfl, same⟩, goesOn⟩)
      · contradiction
      · exact Except.ok.inj same ▸ goesOn
  | fail f =>
    constructor
    · rintro ⟨rfl, rfl⟩
      exact .inl ⟨f, ⟨rfl, rfl⟩, rfl⟩
    · rintro (⟨_, ⟨rfl, same⟩, rfl⟩ | ⟨_, _, _, _, ⟨_, ended⟩, _⟩)
      · exact ⟨rfl, congrArg Except.error (Except.error.inj same)⟩
      · contradiction
  | ask r rest ih =>
    simp only [andThen, Yields, ih]
    constructor
    · rintro ⟨x, answer, _, rfl, tells, ⟨f, fails, failed⟩ | ⟨first, second, a, rfl, yields, goesOn⟩⟩
      · exact .inl ⟨f, ⟨x, answer, _, rfl, tells, fails⟩, failed⟩
      · exact .inr ⟨x :: first, second, a, rfl, ⟨x, answer, first, rfl, tells, yields⟩, goesOn⟩
    · rintro (⟨f, ⟨x, answer, rest, rfl, tells, fails⟩, failed⟩ |
        ⟨_, second, a, rfl, ⟨x, answer, first, rfl, tells, yields⟩, goesOn⟩)
      · exact ⟨x, answer, rest, rfl, tells, .inl ⟨f, fails, failed⟩⟩
      · exact ⟨x, answer, first ++ second, rfl, tells, .inr ⟨first, second, a, rfl, yields, goesOn⟩⟩

/-! ## What a pass asks for next -/

variable {wanted : Request}

theorem reaches_pure {a : α} : ¬ (pure a : Pass α).Reaches past wanted := id

theorem reaches_fail {f : Failure} : ¬ (Pass.fail f : Pass α).Reaches past wanted := id

theorem reaches_bind {p : Pass α} {next : α → Pass β} :
    (p >>= next).Reaches past wanted ↔ p.Reaches past wanted ∨
      ∃ first second a, past = first ++ second ∧ p.Yields first (.ok a) ∧
        (next a).Reaches second wanted := by
  change (p.andThen next).Reaches past wanted ↔ _
  induction p generalizing past with
  | done a =>
    constructor
    · exact fun goesOn => .inr ⟨[], past, a, rfl, ⟨rfl, rfl⟩, goesOn⟩
    · rintro (none | ⟨_, second, _, rfl, ⟨rfl, same⟩, goesOn⟩)
      · exact none.elim
      · exact Except.ok.inj same ▸ goesOn
  | fail f => simp [andThen, Yields, Reaches]
  | ask r rest ih =>
    simp only [andThen, Yields, Reaches, ih]
    constructor
    · rintro (here | ⟨x, answer, _, rfl, tells, there | ⟨first, second, a, rfl, yields, goesOn⟩⟩)
      · exact .inl (.inl here)
      · exact .inl (.inr ⟨x, answer, _, rfl, tells, there⟩)
      · exact .inr ⟨x :: first, second, a, rfl, ⟨x, answer, first, rfl, tells, yields⟩, goesOn⟩
    · rintro ((here | ⟨x, answer, rest, rfl, tells, there⟩) |
        ⟨_, second, a, rfl, ⟨x, answer, first, rfl, tells, yields⟩, goesOn⟩)
      · exact .inl here
      · exact .inr ⟨x, answer, rest, rfl, tells, .inl there⟩
      · exact .inr ⟨x, answer, first ++ second, rfl, tells, .inr ⟨first, second, a, rfl, yields, goesOn⟩⟩

theorem reaches_attempt {r : Request} :
    (attempt r).Reaches past wanted ↔ past = [] ∧ wanted = r := by
  simp [attempt, Reaches]

theorem reaches_tokens {r : StoreRequest TokenSpec TokenStatus} :
    (tokens r).Reaches past wanted ↔ past = [] ∧ wanted = .tokens r := by
  constructor
  · rintro (here | ⟨_, f | b, _, _, _, there⟩)
    · exact here
    · exact there.elim
    · exact there.elim
  · exact .inl

theorem reaches_bindings {r : StoreRequest BindingSpec BindingStatus} :
    (bindings r).Reaches past wanted ↔ past = [] ∧ wanted = .bindings r := by
  constructor
  · rintro (here | ⟨_, f | b, _, _, _, there⟩)
    · exact here
    · exact there.elim
    · exact there.elim
  · exact .inl

theorem reaches_updates {r : StoreRequest DataUpdateSpec Unit} :
    (updates r).Reaches past wanted ↔ past = [] ∧ wanted = .updates r := by
  constructor
  · rintro (here | ⟨_, f | b, _, _, _, there⟩)
    · exact here
    · exact there.elim
    · exact there.elim
  · exact .inl

/-- A pass reaches requests of the kind that it asks for alone, and through no others. -/
theorem Asks.reaches {kind : Request → Prop} {p : Pass α} (asks : p.Asks kind)
    (reaches : p.Reaches past wanted) : (∀ x ∈ past, kind x.request) ∧ kind wanted := by
  induction p generalizing past with
  | done a => exact reaches.elim
  | fail f => exact reaches.elim
  | ask r next ih =>
    rcases reaches with ⟨rfl, rfl⟩ | ⟨x, answer, rest, rfl, tells, there⟩
    · exact ⟨by simp, asks.1⟩
    · obtain ⟨others, last⟩ := ih answer (asks.2 answer () trivial) there
      exact ⟨List.forall_mem_cons.mpr ⟨tells.request ▸ asks.1, others⟩, last⟩

/-- A pass goes through requests of the kind that it asks for alone. -/
theorem Asks.yields {kind : Request → Prop} {p : Pass α} (asks : p.Asks kind)
    {result : Except Failure α} (yields : p.Yields past result) : ∀ x ∈ past, kind x.request := by
  induction p generalizing past with
  | done a =>
    obtain ⟨rfl, _⟩ := yields
    simp
  | fail f =>
    obtain ⟨rfl, _⟩ := yields
    simp
  | ask r next ih =>
    obtain ⟨x, answer, rest, rfl, tells, there⟩ := yields
    exact List.forall_mem_cons.mpr
      ⟨tells.request ▸ asks.1, ih answer (asks.2 answer () trivial) there⟩

/-- A pass that ends as it should, whatever it is answered, has such a result. -/
theorem Obeys.of_yields {kind : Request → Prop} {ending : Unit → Except Failure α → Prop} {p : Pass α}
    (obeys : p.Obeys (⟨fun _ r => kind r, fun _ _ _ _ => True⟩ : Discipline Unit) ending ())
    {result : Except Failure α} (yields : p.Yields past result) : ending () result := by
  induction p generalizing past with
  | done a => exact yields.2 ▸ obeys
  | fail f => exact yields.2 ▸ obeys
  | ask r next ih =>
    obtain ⟨x, answer, rest, rfl, tells, there⟩ := yields
    exact ih answer (obeys.2 answer () trivial) there

/-! ## Steps of a play -/

variable {comes : Nat → Between} {n : Nat} {g : Ground} {p : Pass α} {late : List Exchange}
  {x : Exchange}

/-- The exchanges of a play lead the pass to its result. -/
theorem yields_of_play (p : Pass α) (comes : Nat → Between) (n : Nat) (g : Ground) :
    p.Yields (p.play comes n g).1 (p.play comes n g).2 := by
  induction p generalizing n g with
  | done a => exact ⟨rfl, rfl⟩
  | fail f => exact ⟨rfl, rfl⟩
  | ask r next ih => exact ⟨_, _, _, rfl, ⟨_, _, rfl, rfl⟩, ih _ _ _⟩

/-- Each request of a play is the one that the pass asks for after the exchanges before. -/
theorem reaches_of_play (split : (p.play comes n g).1 = past ++ x :: late) :
    p.Reaches past x.request := by
  induction p generalizing past n g with
  | done a => simp [Pass.play] at split
  | fail f => simp [Pass.play] at split
  | ask r next ih =>
    cases past with
    | nil =>
      simp only [Pass.play, List.nil_append, List.cons.injEq] at split
      rw [← split.1]
      exact .inl ⟨rfl, rfl⟩
    | cons y past =>
      simp only [Pass.play, List.cons_append, List.cons.injEq] at split
      obtain ⟨rfl, split⟩ := split
      exact .inr ⟨_, _, past, rfl, ⟨_, _, rfl, rfl⟩, ih _ split⟩

/-- The requests of a play meet clusters that are later than all that were left before. -/
theorem ordered_play (p : Pass α) (comes : Nat → Between) (n : Nat) (g : Ground) :
    (∀ x ∈ (p.play comes n g).1, g.cluster.Later x.cluster) ∧
      (p.play comes n g).1.Pairwise Exchange.Before := by
  induction p generalizing n g with
  | done a => simp [Pass.play]
  | fail f => simp [Pass.play]
  | ask r next ih =>
    obtain ⟨later, order⟩ := ih ((g.after (comes n)).cluster.answer (comes n).chance r).1 (n + 1)
      ((g.after (comes n)).answer (comes n).chance r)
    refine ⟨fun x here => ?_, List.pairwise_cons.mpr ⟨later, order⟩⟩
    rcases List.mem_cons.mp here with rfl | there
    · exact g.later_after (comes n)
    · exact (g.later_after (comes n)).trans ((Cluster.Later.now.answer _ _).trans (later x there))

/-- Each request of a play has a chance that comes with it. -/
theorem chance_of_play (here : x ∈ (p.play comes n g).1) : ∃ m, x.chance = (comes m).chance := by
  induction p generalizing n g with
  | done a => simp [Pass.play] at here
  | fail f => simp [Pass.play] at here
  | ask r next ih =>
    rcases List.mem_cons.mp here with rfl | there
    · exact ⟨n, rfl⟩
    · exact ih _ there

/-- The exchanges of a play up to one of them are in order. -/
theorem ordered_of_play (split : (p.play comes n g).1 = past ++ x :: late) :
    (past ++ [x]).Pairwise Exchange.Before := by
  have order := (p.ordered_play comes n g).2
  rw [split, List.append_cons] at order
  exact (List.pairwise_append.mp order).1

/-- The cluster as some exchanges have left it that began over a ground. -/
def reached (g : Ground) (past : List Exchange) : Cluster := past.getLast?.elim g.cluster Exchange.left

theorem reached_cons (g : Ground) (x : Exchange) (past : List Exchange) :
    reached g (x :: past) = reached (x.toGround.answer x.chance x.request) past := by
  cases past with
  | nil => rfl
  | cons y past => simp [reached, List.getLast?_cons]

theorem reached_snoc (g : Ground) (past : List Exchange) (x : Exchange) :
    reached g (past ++ [x]) = x.left := by
  simp [reached]

/-- What a play leaves is later than what it began with. -/
theorem later_reached (p : Pass α) (comes : Nat → Between) (n : Nat) (g : Ground) :
    g.cluster.Later (reached g (p.play comes n g).1) := by
  cases last : (p.play comes n g).1.getLast? with
  | none =>
    rw [reached, last]
    exact .now
  | some x =>
    rw [reached, last]
    exact ((p.ordered_play comes n g).1 x (List.mem_of_getLast? last)).trans
      (Cluster.Later.now.answer x.chance x.request)

/-- What others do not change is met as the exchange before has left it. -/
theorem met_of_apart {view : Cluster → β}
    (timeless : ∀ c clock, view { c with clock := clock } = view c)
    (apart : ∀ n, ∀ o ∈ (comes n).others, ∀ c : Cluster, view (c.answer o.1 o.2).2 = view c)
    (split : (p.play comes n g).1 = past ++ x :: late) : view x.cluster = view (reached g past) := by
  induction p generalizing past n g with
  | done a => simp [Pass.play] at split
  | fail f => simp [Pass.play] at split
  | ask r next ih =>
    cases past with
    | nil =>
      simp only [Pass.play, List.nil_append, List.cons.injEq] at split
      obtain ⟨rfl, _⟩ := split
      have kept : ∀ (others : List (Chance × Request)) (h : Ground),
          (∀ o ∈ others, ∀ c : Cluster, view (c.answer o.1 o.2).2 = view c) →
          view (others.foldl (fun g o => g.answer o.1 o.2) h).cluster = view h.cluster := by
        intro others
        induction others with
        | nil => exact fun h _ => rfl
        | cons o rest ih =>
          intro h all
          obtain ⟨first, all⟩ := List.forall_mem_cons.mp all
          exact (ih (h.answer o.1 o.2) all).trans (first h.cluster)
      exact (timeless _ _).trans (kept _ g (apart n))
    | cons y past =>
      simp only [Pass.play, List.cons_append, List.cons.injEq] at split
      obtain ⟨rfl, split⟩ := split
      rw [reached_cons, ih _ split]

/-- What neither others nor some exchanges change is as it was before them. -/
theorem kept_of_apart {view : Cluster → β}
    (timeless : ∀ c clock, view { c with clock := clock } = view c)
    (apart : ∀ n, ∀ o ∈ (comes n).others, ∀ c : Cluster, view (c.answer o.1 o.2).2 = view c)
    {more : List Exchange} (split : (p.play comes n g).1 = past ++ more ++ late)
    (kept : ∀ y ∈ more, view y.left = view y.cluster) :
    view (reached g (past ++ more)) = view (reached g past) := by
  induction more generalizing past with
  | nil => rw [List.append_nil]
  | cons y more ih =>
    obtain ⟨here, others⟩ := List.forall_mem_cons.mp kept
    have next : (p.play comes n g).1 = past ++ y :: (more ++ late) := by simpa using split
    have met := met_of_apart timeless apart next
    rw [List.append_cons] at split ⊢
    rw [ih split others, ← met, ← here]
    simp [reached]

/-- While nobody else asks for anything, what no exchange changes stays as it was. -/
theorem undisturbed {view : Cluster → β}
    (timeless : ∀ c clock, view { c with clock := clock } = view c)
    (quiet : ∀ n, (comes n).others = []) (split : (p.play comes n g).1 = past ++ late)
    (kept : ∀ y ∈ past, view y.left = view y.cluster) : view (reached g past) = view g.cluster := by
  have parts : (p.play comes n g).1 = [] ++ past ++ late := split
  exact kept_of_apart timeless (fun n o here => by simp [quiet n] at here) parts kept

end Pass

end TokenSteward
