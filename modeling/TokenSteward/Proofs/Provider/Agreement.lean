import TokenSteward.Proofs.Passage.Binding
import TokenSteward.Proofs.Passage.Token
import TokenSteward.Proofs.Provider.Places

/-! # The provider of a token that is made for a binding

A token that is made for a binding names the URL of the provider that the binding's repository
belongs to. That URL belongs to the same provider, so a pass over the token turns to that provider
and to no other, and never says that there is none.
-/

namespace TokenSteward

open TokenSteward.Cluster TokenSteward.Resource TokenSteward.Provider Pass

namespace BindingDesk

variable {d : BindingDesk} {k : Key} {b : Binding} {o : AccessToken}

/-- While a binding's token is looked for, one is made only for that binding, by the provider that its
repository belongs to. -/
theorem asks_resolve_creates (d : BindingDesk) (b : Binding) :
    (d.resolve b).Asks fun r => ∀ o, r = .tokens (.create o) →
      ∃ s, d.registry.forUrl? b.spec.repoUrl = some s ∧ o = freshToken b s := by
  unfold resolve
  split
  · exact asks_pure _
  · next s found =>
    apply Asks.bind
    · unfold currentToken
      split
      · exact asks_pure _
      · exact asks_tokens fun o same => by simp at same
    · intro current
      cases current with
      | some token => exact asks_pure _
      | none =>
        apply (asks_attempt fun o same => by simp at same).bind
        intro answer
        split
        · exact asks_pure _
        · refine (asks_tokens fun o same => ?_).bind fun token => asks_pure _
          injection same with same
          injection same with same
          exact ⟨s, found, same.symm⟩
        · split
          · exact asks_pure _
          · exact asks_fail _

/-- A pass over a binding makes a token only for the binding that it has read. -/
theorem creates_of_play {comes : Nat → Between} {n : Nat} {g : Ground} {past late : List Exchange}
    {x : Exchange} (parts : ((d.pass k).play comes n g).1 = past ++ x :: late)
    (asks : x.request = .tokens (.create o)) :
    ∃ y ∈ past, ∃ b s, Reads k b y ∧ d.registry.forUrl? b.spec.repoUrl = some s ∧
      o = freshToken b s := by
  have step := step_of_reaches (reaches_of_play parts)
  rw [asks] at step
  cases step with
  | seek reads alive reaches =>
    next b y sought =>
    obtain ⟨s, found, same⟩ := ((d.asks_resolve_creates b).reaches reaches).2 o rfl
    exact ⟨y, List.mem_cons_self, b, s, reads, found, same⟩

end BindingDesk

namespace TokenDesk

variable {d : TokenDesk} {k : Key} {t w : AccessToken} {s : Service}

/-- What becomes of a pass that turns to one provider: it asks no other, and no status that it writes
says that there is none. -/
structure Heeds (s : Service) (r : Request) : Prop where
  alone : ∀ other q, r = .provider other q → other = s
  known : ∀ o, r = .tokens (.updateStatus o) → o.status.reason ≠ some .unknownServiceProvider

theorem Heeds.of_others {r : Request} (other : ∀ s q, r ≠ .provider s q)
    (silent : ∀ o, r ≠ .tokens (.updateStatus o)) : Heeds s r :=
  ⟨fun s q same => absurd same (other s q), fun o same => absurd same (silent o)⟩

/-- The discipline of a pass that turns to one provider. -/
def heeding (s : Service) : Discipline Unit := ⟨fun _ r => Heeds s r, fun _ _ _ _ => True⟩

/-- Whoever works out the status of a token asks the provider that the token's URL belongs to, and does
not find that there is none. -/
theorem obeys_desiredStatus (found : d.registry.forUrl? t.spec.providerUrl = some s) :
    (d.desiredStatus t).Obeys (heeding s) (fun _ result => ∀ status, result = .ok status →
      status.reason ≠ some .unknownServiceProvider) () := by
  have asked (q : ProviderRequest) : Heeds s (.provider s q) :=
    ⟨fun other q' same => by injection same with same; exact same.symm, fun o same => by cases same⟩
  have other {r : Request} (others : ∀ s q, r ≠ .provider s q) (silent : ∀ q, r ≠ .tokens q) :
      Heeds s r := .of_others others fun o => silent _
  unfold desiredStatus
  rw [found]
  refine obeys_bind.mpr (obeys_vault.mpr ⟨other (by simp) (by simp), fun answer _ _ => ?_⟩)
  rcases answer with f | _ | record
  · intro status failed
    contradiction
  · change (d.awaitingStatus t s).Obeys _ _ _
    unfold awaitingStatus
    split
    · rintro _ ⟨⟩
      simp [TokenStatus.awaiting]
    · dsimp only
      split
      · rintro _ ⟨⟩
        simp [TokenStatus.awaiting]
      · refine obeys_bind.mpr (obeys_attempt.mpr ⟨other (by simp) (by simp), fun now _ _ => ?_⟩)
        rintro _ ⟨⟩
        simp [TokenStatus.awaiting]
  · refine obeys_bind.mpr (obeys_provider.mpr ⟨asked _, fun answer _ _ => ?_⟩)
    rcases answer with f | validation
    · intro status failed
      contradiction
    · change (if _ then _ else _ : Pass TokenStatus).Obeys _ _ _
      split
      · rintro _ ⟨⟩
        simp [TokenStatus.invalid]
      · refine obeys_bind.mpr (obeys_attempt.mpr ⟨asked _, fun answer _ _ => ?_⟩)
        rcases answer with f | holder
        · change (if _ then _ else _ : Pass TokenStatus).Obeys _ _ _
          split
          · rintro _ ⟨⟩
            simp [TokenStatus.invalid]
          · intro status failed
            contradiction
        · rintro _ ⟨⟩
          simp [TokenStatus.ready]

/-- The copy that a status is worked out from wants what the token wanted that was read first. -/
theorem Begun.spec_eq {begun : List Exchange} (begins : Begun k t w begun)
    (order : begun.Pairwise Exchange.Before) : w.spec = t.spec := by
  cases begins with
  | read _ _ _ => rfl
  | @put x y _ reads alive bare puts =>
    have before : x.Before y := by simpa using order
    obtain ⟨_, same, _⟩ := written_of_put (reads.copy before).2 alive puts
    exact same ▸ rfl

/-- A pass over a token turns to the provider that the token's URL belongs to. -/
theorem heeds_of_play {comes : Nat → Between} {n : Nat} {g : Ground} {y x : Exchange}
    {past late : List Exchange} (parts : ((d.pass k).play comes n g).1 = y :: past ++ x :: late)
    (reads : Reads k t y) (found : d.registry.forUrl? t.spec.providerUrl = some s) :
    Heeds s x.request := by
  have step := step_of_reaches (reaches_of_play parts)
  have order := (List.pairwise_append.mp (ordered_of_play parts)).1
  generalize begins : y :: past = before at step order
  generalize x.request = r at step
  -- The status is worked out from the token that the first exchange has read.
  have turned {t' w : AccessToken} {begun looked : List Exchange} (begun' : Begun k t' w begun)
      (split : y :: past = begun ++ looked) (order : (begun ++ looked).Pairwise Exchange.Before) :
      d.registry.forUrl? w.spec.providerUrl = some s := by
    have spec := begun'.spec_eq (List.pairwise_append.mp order).1
    obtain ⟨_, z, rest, rfl, reads'⟩ := begun'.front
    obtain ⟨rfl, _⟩ := List.cons.inj split
    obtain rfl : t = t' := Option.some.inj (reads.stored.1.symm.trans reads'.stored.1)
    rw [spec]
    exact found
  cases step with
  | read => exact .of_others (by simp) (by simp)
  | put _ _ _ => exact .of_others (by simp) (by simp)
  | look begun' reaches =>
    have obeys := obeys_desiredStatus (turned begun' begins order)
    have asks : (d.desiredStatus _).Asks (Heeds s) := obeys.mono fun _ _ _ => trivial
    exact (asks.reaches reaches).2
  | status begun' yields differs =>
    have obeys := obeys_desiredStatus (turned begun' begins order)
    refine ⟨by simp, fun o same => ?_⟩
    injection same with same
    injection same with same
    rw [← same]
    exact obeys.of_yields yields _ rfl
  | list _ _ reaches =>
    unfold holders at reaches
    split at reaches
    · rw [(reaches_bindings.mp reaches).2]
      exact .of_others (by simp) (by simp)
    · exact absurd reaches reaches_pure
  | clean _ _ _ reaches =>
    unfold cleanup at reaches
    split at reaches
    · rw [(reaches_attempt.mp reaches).2]
      exact .of_others (by simp) (by simp)
    · exact absurd reaches reaches_pure
  | release _ _ _ _ => exact .of_others (by simp) (by simp)

/-- Each pass over a token with some URL turns to one provider, whatever comes between its requests. -/
def TurnsTo (d : TokenDesk) (s : Service) (url : String) : Prop :=
  ∀ (k : Key) (g : Ground) (comes : Nat → Between) (y : Exchange) (rest : List Exchange)
    (t : AccessToken), ((d.pass k).play comes 0 g).1 = y :: rest → Reads k t y →
    t.spec.providerUrl = url → ∀ x ∈ rest, Heeds s x.request

theorem turnsTo_of_forUrl {url : String} (found : d.registry.forUrl? url = some s) :
    d.TurnsTo s url := by
  rintro k g comes y rest t parts reads rfl x here
  obtain ⟨past, late, rfl⟩ := List.append_of_mem here
  exact heeds_of_play parts reads found

end TokenDesk

open TokenDesk in
/-- Whoever a URL belongs to, its own URL belongs to as well, and so it does at the same place of the
registry. So the passes over a token that was made for a binding turn to the very provider that the
binding's repository belongs to. -/
theorem same_provider (d : BindingDesk) (e : TokenDesk) (shared : e.registry = d.registry) :
    (∀ url p, d.registry.forUrl? url = some p → d.registry.forUrl? p.baseUrl = some p ∧
      ∃ before after, d.registry = before ++ p :: after ∧
        Registry.Decides before p after url.toList ∧
        Registry.Decides before p after p.baseUrl.toList) ∧
    ∀ (k : Key) (g : Ground) (comes : Nat → Between) (past late : List Exchange) (x : Exchange)
      (o : AccessToken), ((d.pass k).play comes 0 g).1 = past ++ x :: late →
      x.request = .tokens (.create o) →
      ∃ y ∈ past, ∃ b s, BindingDesk.Reads k b y ∧ d.registry.forUrl? b.spec.repoUrl = some s ∧
        e.registry.forUrl? o.spec.providerUrl = some s ∧ e.TurnsTo s o.spec.providerUrl ∧
        ∀ t, x.Tells (.tokens (.create o)) (.ok t) → t.spec = o.spec := by
  have own (url : String) (p : Service) (found : d.registry.forUrl? url = some p) :
      ∃ before after, d.registry = before ++ p :: after ∧
        Registry.Decides before p after url.toList ∧
        Registry.Decides before p after p.baseUrl.toList := by
    obtain ⟨before, after, same, decides⟩ := Registry.exists_decides found
    exact ⟨before, after, same, decides, decides.own⟩
  have again (url : String) (p : Service) (found : d.registry.forUrl? url = some p) :
      d.registry.forUrl? p.baseUrl = some p := by
    obtain ⟨before, after, same, _, decides⟩ := own url p found
    exact Registry.forUrl?_eq_some_iff.mpr ⟨before, after, same, decides⟩
  refine ⟨fun url p found => ⟨again url p found, own url p found⟩, ?_⟩
  intro k g comes past late x o parts asks
  obtain ⟨y, here, b, s, reads, found, rfl⟩ := BindingDesk.creates_of_play parts asks
  have resolves : e.registry.forUrl? s.baseUrl = some s := by
    rw [shared]
    exact again _ s found
  refine ⟨y, here, b, s, reads, found, resolves, turnsTo_of_forUrl resolves, fun t made => ?_⟩
  rcases x.cluster.tokens.create_cases x.cluster.now (BindingDesk.freshToken b s) with
    ⟨f, failed⟩ | ⟨name, s', born, _⟩
  · cases failed.symm.trans made.tokens
  · obtain ⟨same, _⟩ := Prod.mk.inj (born.symm.trans made.tokens)
    exact Except.ok.inj same ▸ rfl

/-- Providers with bases inside one another, two of them alike but for the slashes. -/
def nestedProviders : Registry :=
  ["https://git.example/group", "https://git.example/", "https://git.example/group//",
    "https://git.example/group/sub", "https://git.example/gr"].map fun url => ⟨default, url, fun _ => []⟩

/-- A binding for a repository of the group. -/
def groupBinding : Binding := .fresh (.named "dev" "ci") "https://git.example/group/repo" .none

/-- Before the first request the binding is created; no provider has a token for it. -/
def groupAfter : Nat → Between
  | 0 => ⟨[(.quiet, .bindings (.create groupBinding))], 0, .quiet⟩
  | _ => ⟨[], 0, .calm fun _ r => match r with
    | .lookup _ => .ok none
    | _ => .error (.unavailable "")⟩

/-- The exchanges of a pass over the binding. -/
def groupPlay : List Exchange :=
  ((BindingDesk.pass ⟨nestedProviders⟩ groupBinding.key).play groupAfter 0 (.bare (.serial 0))).1

/-- The token that is made for the binding belongs to the last of the two providers that are alike. -/
theorem same_provider_nested : ∃ past x late o s, groupPlay = past ++ x :: late ∧
    x.request = .tokens (.create o) ∧ s.baseUrl = "https://git.example/group//" ∧
    Registry.forUrl? nestedProviders o.spec.providerUrl = some s ∧
    (⟨nestedProviders, none, TokenDesk.standardRecheck⟩ : TokenDesk).TurnsTo s o.spec.providerUrl := by
  have long : 2 < groupPlay.length := by decide +kernel
  have parts : groupPlay = groupPlay.take 2 ++ groupPlay[2] :: groupPlay.drop 3 := by
    rw [← List.drop_eq_getElem_cons long, List.take_append_drop]
  obtain ⟨o, asks, named⟩ : ∃ o, groupPlay[2].request = .tokens (.create o) ∧
      o.spec.providerUrl = "https://git.example/group//" := ⟨_, rfl, by decide +kernel⟩
  have same := same_provider ⟨nestedProviders⟩ ⟨nestedProviders, none, TokenDesk.standardRecheck⟩ rfl
  obtain ⟨_, _, _, s, _, _, resolves, turns, _⟩ := same.2 _ _ groupAfter _ _ _ o parts asks
  have last : (Registry.forUrl? nestedProviders "https://git.example/group//").map (·.baseUrl) =
      some "https://git.example/group//" := by decide +kernel
  change Registry.forUrl? nestedProviders _ = some s at resolves
  rw [← named, resolves] at last
  exact ⟨_, _, _, o, s, parts, asks, (Option.some.inj last).trans named, resolves, turns⟩

end TokenSteward
