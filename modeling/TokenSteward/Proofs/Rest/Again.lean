import TokenSteward.Proofs.Pass.Requests
import TokenSteward.Proofs.Rest.Steady

/-! # A pass that is made again

A pass over a token that succeeds leaves behind the status that is implied. If the next pass finds
the same specification and record, and providers answer it as they have answered the one before, the
same status is implied again, so that pass only reads. That holds of a link too: the token's own link
is recognized, since what was signed into it is read back from it.
-/

namespace TokenSteward

open TokenSteward.Cluster TokenSteward.Resource TokenSteward.Secret TokenSteward.Provider
open TokenSteward.OAuth Pass

namespace Pass

variable {α β : Type} {x : Chance} {c c' : Cluster}

/-- The requests of a pass if nobody else asks for anything. -/
def requests (x : Chance) (c : Cluster) : Pass α → List Request
  | .done _ => []
  | .fail _ => []
  | .ask r next => r :: (next (c.answer x r).1).requests x (c.answer x r).2

theorem requests_bind {p : Pass α} {a : α} (ends : p.alone x c = (.ok a, c')) (next : α → Pass β) :
    (p >>= next).requests x c = p.requests x c ++ (next a).requests x c' := by
  change (p.andThen next).requests x c = _
  induction p generalizing c with
  | done b =>
    cases ends
    rfl
  | fail f => cases ends
  | ask r rest ih => exact congrArg (r :: ·) (ih _ ends)

theorem Asks.requests {kind : Request → Prop} {p : Pass α} (asks : p.Asks kind) (x : Chance)
    (c : Cluster) : ∀ r ∈ p.requests x c, kind r := by
  induction p generalizing c with
  | done a => simp [Pass.requests]
  | fail f => simp [Pass.requests]
  | ask r next ih => exact List.forall_mem_cons.mpr ⟨asks.1, ih _ (asks.2 _ () trivial) _⟩

/-- A pass that succeeds, and what follows it, have both succeeded. -/
theorem alone_bind_ok {p : Pass α} {next : α → Pass β} {b : β}
    (ends : (p >>= next).alone x c = (.ok b, c')) :
    ∃ a c₁, p.alone x c = (.ok a, c₁) ∧ (next a).alone x c₁ = (.ok b, c') := by
  change (p.andThen next).alone x c = _ at ends
  induction p generalizing c with
  | done a => exact ⟨a, c, rfl, ends⟩
  | fail f => cases ends
  | ask r rest ih => exact ih _ ends

/-- A pass leaves a sound cluster behind. -/
theorem sound_alone {p : Pass α} {result : Except Failure α} (sound : c.Sound)
    (ends : p.alone x c = (result, c')) : c'.Sound := by
  induction p generalizing c with
  | done a =>
    cases ends
    exact sound
  | fail f =>
    cases ends
    exact sound
  | ask r rest ih => exact ih _ (sound.answer x r) ends

theorem alone_attempt_bind {r : Request} (next : r.Answer → Pass β) :
    (attempt r >>= next).alone x c = (next (c.answer x r).1).alone x (c.answer x r).2 :=
  rfl

/-- A request to the tokens that has succeeded was carried out. -/
theorem alone_tokens_ok {r : StoreRequest TokenSpec TokenStatus} {a : r.Result}
    (ends : (tokens r).alone x c = (.ok a, c')) :
    ∃ s, c.tokens.perform c.now r = (.ok a, s) ∧ c' = { c with tokens := s } := by
  simp only [tokens, alone, Cluster.answer] at ends
  cases refused : x.refusal with
  | some f =>
    rw [refused] at ends
    cases ends
  | none =>
    rw [refused] at ends
    dsimp only at ends
    generalize c.tokens.perform c.now r = answered at ends ⊢
    obtain ⟨f | b, s⟩ := answered
    · cases ends
    · cases ends
      exact ⟨s, rfl, rfl⟩

theorem alone_vault_ok {r : VaultRequest} {a : r.Result}
    (ends : (vault r).alone x c = (.ok a, c')) : c.answer x (.vault r) = (.ok a, c') := by
  simp only [vault, alone] at ends
  generalize c.answer x (.vault r) = answered at ends ⊢
  obtain ⟨f | b, left⟩ := answered
  · cases ends
  · cases ends
    rfl

theorem alone_provider_ok {s : Service} {r : ProviderRequest} {a : r.Result}
    (ends : (provider s r).alone x c = (.ok a, c')) : x.word s r = .ok a ∧ c' = c := by
  simp only [provider, alone, Cluster.answer] at ends
  generalize x.word s r = answered at ends ⊢
  cases answered with
  | error f => cases ends
  | ok b =>
    cases ends
    exact ⟨rfl, rfl⟩

end Pass

namespace TokenDesk

variable {d : TokenDesk} {x : Chance} {c c' : Cluster} {k : Key} {t w : AccessToken}

/-- Without a record, a status that a pass has come to awaits one. -/
theorem implied_of_awaiting {status : TokenStatus} {s : Service}
    (served : d.registry.forUrl? w.spec.providerUrl = some s)
    (ends : (d.awaitingStatus w s).alone x c = (.ok status, c')) :
    c' = c ∧ d.Implied x.word w none status := by
  simp only [awaitingStatus] at ends
  split at ends
  · next none =>
    cases ends
    exact ⟨rfl, .awaiting served (by simp only [Leads, none])⟩
  · next b links =>
    split at ends
    · next kept =>
      cases ends
      exact ⟨rfl, .awaiting served (leads_of_reusable links kept)⟩
    · cases ends
      exact ⟨rfl, .awaiting served (leads_link links s c.clock)⟩

/-- A status that a pass has come to is implied. -/
theorem implied_of_alone {status : TokenStatus}
    (ends : (d.desiredStatus w).alone x c = (.ok status, c')) :
    c' = c ∧ d.Implied x.word w (c.vault.get? (VaultKey.ofOwner w)) status := by
  unfold desiredStatus at ends
  split at ends
  · next nobody =>
    cases ends
    exact ⟨rfl, .unserved nobody⟩
  · next s served =>
    obtain ⟨record, c₁, got, goesOn⟩ := alone_bind_ok ends
    obtain ⟨rfl, rfl⟩ : c₁ = c ∧ record = c.vault.get? (VaultKey.ofOwner w) := by
      have answered := alone_vault_ok got
      simp only [Cluster.answer] at answered
      split at answered
      · cases answered
      · cases answered
        exact ⟨rfl, rfl⟩
    clear ends got
    generalize c₁.vault.get? (VaultKey.ofOwner w) = record at goesOn ⊢
    cases record with
    | none => exact implied_of_awaiting served goesOn
    | some r =>
      dsimp only at goesOn
      obtain ⟨validation, c₂, checked, ends⟩ := alone_bind_ok goesOn
      obtain ⟨said, rfl⟩ := alone_provider_ok checked
      clear goesOn
      split at ends
      · next lacks =>
        cases ends
        exact ⟨rfl, .unsupported served said (by simpa using lacks)⟩
      · next valid =>
        have valid : validation.isValid = true := by simpa using valid
        rw [alone_attempt_bind] at ends
        simp only [Cluster.answer] at ends
        cases persisted : x.word s (.persist w r) with
        | ok holder =>
          rw [persisted] at ends
          cases ends
          exact ⟨rfl, .ready served said valid persisted⟩
        | error f =>
          rw [persisted] at ends
          dsimp only at ends
          split at ends
          · next refusal =>
            cases ends
            exact ⟨rfl, .refused served said valid persisted refusal⟩
          · cases ends

/-- The token that a pass works out the status of: as it is stored, or as it is stored with both
guards. -/
def workedOn (c : Cluster) (t : AccessToken) : AccessToken :=
  if isUnguarded t then (guarded t).withVersion (c.tokens.version + 1) else t

/-- That token has a guard, and differs in nothing but guards and version. -/
theorem exists_workedOn (c : Cluster) (t : AccessToken) : isUnguarded (workedOn c t) = false ∧
    ∃ guards version, workedOn c t =
      { t with metadata := { t.metadata with guards := guards, version := version } } := by
  unfold workedOn
  split
  · obtain ⟨guards, same⟩ := exists_guards_guarded t
    constructor
    · have present := hasGuard_guarded t secretGuard
      have guarded : ((guarded t).withVersion (c.tokens.version + 1)).metadata.hasGuard secretGuard = true := by
        change (guarded t).metadata.hasGuard secretGuard = true
        simp [present]
      simp [isUnguarded, guarded]
    · exact ⟨guards, _, by rw [same]; rfl⟩
  · next guarded => exact ⟨by simpa using guarded, t.metadata.guards, t.metadata.version, rfl⟩

/-- What a pass leaves behind that has worked on a token. -/
private theorem left_of_work (sound : c.Sound) (stored : c.tokens.get? k = some w) {a : Action}
    (ends : (d.work w).alone x c = (.ok a, c')) :
    a = .await ∧ c'.vault = c.vault ∧ ∃ status version,
      c'.tokens.get? k = some ({ w with status := status }.withVersion version) ∧
        d.Implied x.word w (c.vault.get? (VaultKey.ofOwner w)) status := by
  unfold work at ends
  obtain ⟨status, c₁, worked, goesOn⟩ := alone_bind_ok ends
  obtain ⟨rfl, implied⟩ := implied_of_alone worked
  split at goesOn
  · next differs =>
    obtain ⟨written, c₂, wrote, done⟩ := alone_bind_ok goesOn
    cases done
    obtain ⟨s, served, rfl⟩ := alone_tokens_ok wrote
    obtain ⟨_, _, rfl⟩ := (sound.tokens.snapshot stored).updateStatus_cases differs served
    have filed : w.key = k := sound.tokens.filed stored
    refine ⟨rfl, rfl, status, c₁.tokens.version + 1, ?_, implied⟩
    exact Store.get?_write_self _ filed
  · next same =>
    obtain rfl : status = w.status := by simpa using same
    cases goesOn
    exact ⟨rfl, rfl, w.status, w.metadata.version, stored, implied⟩

/-- What a pass leaves behind that has succeeded over a token that is not to be deleted. -/
theorem left_of_alone (sound : c.Sound) (stored : c.tokens.get? k = some t)
    (alive : t.isDeleting = false) {a : Action} (ends : (d.pass k).alone x c = (.ok a, c')) :
    a = .await ∧ c'.vault = c.vault ∧ ∃ status version,
      c'.tokens.get? k = some ({ workedOn c t with status := status }.withVersion version) ∧
        d.Implied x.word (workedOn c t) (c.vault.get? (VaultKey.ofOwner t)) status := by
  rw [pass_eq] at ends
  obtain ⟨found, c₁, read, goesOn⟩ := alone_bind_ok ends
  obtain ⟨_, served, rfl⟩ := alone_tokens_ok read
  obtain ⟨said, rfl⟩ := Prod.mk.inj served
  obtain rfl : some t = found := stored.symm.trans (Except.ok.inj said)
  simp only [alive, Bool.false_eq_true, if_false] at goesOn
  unfold workedOn
  split at goesOn
  · next bare =>
    rw [if_pos bare]
    obtain ⟨w, c₂, put, works⟩ := alone_bind_ok goesOn
    have soundThen := sound_alone sound put
    obtain ⟨s, served, rfl⟩ := alone_tokens_ok put
    obtain ⟨guards, same⟩ := exists_guards_guarded t
    obtain ⟨_, ⟨deleting, _⟩ | ⟨_, rfl, rfl⟩⟩ := (sound.tokens.snapshot stored).update_cases
      (o := guarded t) (key_guarded t) (by rw [same]) (by rw [same]; rfl) served
    · rw [alive] at deleting
      contradiction
    · have filed : ((guarded t).withVersion (c.tokens.version + 1)).key = k :=
        (key_guarded t).trans (sound.tokens.filed stored)
      have owner : VaultKey.ofOwner (guarded t) = VaultKey.ofOwner t := by rw [same]; rfl
      have left := left_of_work soundThen (Store.get?_write_self _ filed) works
      exact owner ▸ left
  · next guarded =>
    rw [if_neg guarded]
    exact left_of_work sound stored goesOn

/-- A status is implied again if the token says the same and is answered the same. -/
theorem Implied.again {word later : Word} {record : Option Record} {status : TokenStatus}
    (implied : d.Implied word w record status) (key : t.key = w.key) (spec : t.spec = w.spec)
    (validates : ∀ s r, later s (.validate r t.spec.permissions) = word s (.validate r t.spec.permissions))
    (persists : ∀ s r, later s (.persist t r) = word s (.persist w r)) :
    d.Implied later t record status := by
  have url : t.spec.providerUrl = w.spec.providerUrl := by rw [spec]
  rw [spec] at validates
  cases implied with
  | unserved nobody => exact url ▸ .unserved (url ▸ nobody)
  | awaiting served leads =>
    have state (s : Service) : linkState t s = linkState w s := by
      obtain ⟨space, name⟩ := Key.mk.inj key
      simp only [linkState, spec, space, name]
    refine .awaiting (url ▸ served) ?_
    unfold Leads at leads ⊢
    simpa only [state] using leads
  | unsupported served said lacks =>
    exact .unsupported (url ▸ served) (spec ▸ (validates _ _).trans said) lacks
  | refused served said valid persisted refusal =>
    exact .refused (url ▸ served) (spec ▸ (validates _ _).trans said) valid
      ((persists _ _).trans persisted) refusal
  | ready served said valid persisted =>
    exact .ready (url ▸ served) (spec ▸ (validates _ _).trans said) valid
      ((persists _ _).trans persisted)

/-- A pass over a guarded token whose status is implied only reads. -/
theorem requests_of_implied {word : Word} (stored : c.tokens.get? k = some t)
    (alive : t.isDeleting = false) (guarded : isUnguarded t = false)
    (implied : d.Implied word t (c.vault.get? (VaultKey.ofOwner t)) t.status) :
    ∀ r ∈ (d.pass k).requests (.calm word) c, r = .tokens (.get k) ∨ Looks r := by
  have read : (Pass.tokens (.get k)).alone (.calm word) c = (.ok (some t), c) := by
    rw [← stored]
    rfl
  rw [pass_eq, requests_bind read]
  simp only [alive, guarded, Bool.false_eq_true, if_false, work]
  rw [requests_bind (alone_desiredStatus implied)]
  simp only [ne_eq, not_true_eq_false, if_false]
  intro r here
  rcases List.mem_append.mp here with first | later
  · exact .inl (List.mem_singleton.mp first)
  · rcases List.mem_append.mp later with looked | none
    · exact .inr ((d.asks_desiredStatus t).requests _ _ r looked)
    · cases none

/-- A pass that finds its token as an earlier pass left it, as far as it goes by it: the same
specification, status and record, and providers that answer as they answered then. Time has gone by,
and all else may be different. -/
structure Revisits (c : Cluster) (t : AccessToken) (word : Word) (status : TokenStatus)
    (later : Cluster) (t' : AccessToken) (word' : Word) : Prop where
  stored : later.tokens.get? t.key = some t'
  key : t'.key = t.key
  alive : t'.isDeleting = false
  guarded : isUnguarded t' = false
  spec : t'.spec = t.spec
  status : t'.status = status
  record : later.vault.get? (VaultKey.ofOwner t') = c.vault.get? (VaultKey.ofOwner t)
  validates : ∀ s r, word' s (.validate r t'.spec.permissions) = word s (.validate r t'.spec.permissions)
  persists : ∀ s r, word' s (.persist t' r) = word s (.persist (workedOn c t) r)

/-- A pass that comes again after one that has succeeded has the same result and only reads, so it
changes nothing. What the first one left behind is what the next one finds, until something else
changes it. -/
theorem pass_again (sound : c.Sound) (stored : c.tokens.get? k = some t)
    (alive : t.isDeleting = false) {a : Action} (first : (d.pass k).alone x c = (.ok a, c')) :
    ∃ left, c'.tokens.get? k = some left ∧
      (∀ clock word,
        (∀ s r, word s (.validate r t.spec.permissions) = x.word s (.validate r t.spec.permissions)) →
        (∀ s r, word s (.persist left r) = x.word s (.persist (workedOn c t) r)) →
          Revisits c t x.word left.status { c' with clock := clock } left word) ∧
      ∀ later t' word, Revisits c t x.word left.status later t' word →
        (d.pass k).alone (.calm word) later = (.ok a, later) ∧
          ∀ r ∈ (d.pass k).requests (.calm word) later, r = .tokens (.get k) ∨ Looks r := by
  obtain ⟨rfl, vault, status, version, found, implied⟩ := left_of_alone sound stored alive first
  obtain ⟨guarded, guards, version', same⟩ := exists_workedOn c t
  obtain rfl : t.key = k := sound.tokens.filed stored
  refine ⟨_, found, ?_, ?_⟩
  · intro clock word validates persists
    refine ⟨found, ?_, ?_, guarded, ?_, rfl, ?_, ?_, persists⟩
    · rw [same]
      rfl
    · rw [same]
      exact alive
    · rw [same]
      rfl
    · rw [same, vault]
      rfl
    · rw [same]
      exact validates
  · intro later t' word revisits
    have again : d.Implied word t' (later.vault.get? (VaultKey.ofOwner t')) t'.status := by
      rw [revisits.record, revisits.status]
      apply implied.again ?_ ?_ revisits.validates revisits.persists
      · rw [same]
        exact revisits.key
      · rw [same]
        exact revisits.spec
    exact ⟨alone_pass revisits.stored revisits.alive revisits.guarded again,
      requests_of_implied revisits.stored revisits.alive revisits.guarded again⟩

/-- A desk that makes links. -/
def linkingDesk : TokenDesk :=
  ⟨[⟨default, "https://git.example", fun _ => []⟩],
    some ⟨"https://oauth.example".toList, ⟨List.replicate 32 7, by decide⟩⟩, standardRecheck⟩

/-- A token that awaits data. -/
def awaitedToken : AccessToken := .fresh (.named "dev" "git") "https://git.example" .none

/-- A cluster with that token alone, and what the first pass over the token leaves behind. -/
def awaitedCluster : Cluster := ((Cluster.empty (.serial 5)).answer .quiet (.tokens (.create awaitedToken))).2

/-- A first pass puts guards and a link on the token. Whenever the next pass comes, it leaves
everything as it is. -/
theorem pass_again_linked : ∃ c', (linkingDesk.pass awaitedToken.key).alone .quiet awaitedCluster =
      (.ok .await, c') ∧ (c'.tokens.get? awaitedToken.key).map (·.metadata.version) = some 3 ∧
    ∀ clock, (linkingDesk.pass awaitedToken.key).alone .quiet { c' with clock := clock } =
      (.ok .await, { c' with clock := clock }) := by
  have first : ((linkingDesk.pass awaitedToken.key).alone .quiet awaitedCluster).1 = .ok .await ∧
      (((linkingDesk.pass awaitedToken.key).alone .quiet awaitedCluster).2.tokens.get?
        awaitedToken.key).map (·.metadata.version) = some 3 := by
    decide +kernel
  obtain ⟨result, written⟩ := first
  have stored : (awaitedCluster.tokens.get? awaitedToken.key).isSome = true := by decide +kernel
  have alive : ∀ t ∈ awaitedCluster.tokens.get? awaitedToken.key, t.isDeleting = false := by decide +kernel
  obtain ⟨t, stored⟩ := Option.isSome_iff_exists.mp stored
  have sound : awaitedCluster.Sound := (Cluster.sound_empty (.serial 5)).answer _ _
  obtain ⟨left, found, revisits, again⟩ := pass_again sound stored (alive t stored) (Prod.ext result rfl)
  refine ⟨_, Prod.ext result rfl, written, fun clock => ?_⟩
  exact (again _ left _ (revisits clock _ (fun _ _ => rfl) fun _ _ => rfl)).1

end TokenDesk

end TokenSteward
