import TokenSteward.Proofs.Cluster.Lifetimes
import TokenSteward.Proofs.Passage.Bound

/-! # A pass over a binding that is made again

After a pass that succeeded, a binding tells the next one all that it needs: the label names the token,
wherever that one came from, or the status says why there is none. If nothing has changed since, then the
next pass takes another way to the same end, and writes nothing.
-/

namespace TokenSteward.BindingDesk

open TokenSteward.Cluster TokenSteward.Resource TokenSteward.Provider Pass

/-- The requests of a pass that changes nothing. -/
inductive Glances : Request → Prop where
  | binding (k : Key) : Glances (.bindings (.get k))
  | token (k : Key) : Glances (.tokens (.get k))
  | lookup (s : Service) (b : Binding) : Glances (.provider s (.lookup b))

/-- A provider has answered a search among some exchanges. -/
def Heard (past : List Exchange) (s : Service) (a : Except ProviderFailure (Option AccessToken)) : Prop :=
  ∃ x ∈ past, ∃ b, x.Tells (.provider s (.lookup b)) a

/-- Where the search for a binding's token leads without changing anything: to nobody, to a refusal, or
to the token that the label names. -/
inductive Rests (d : BindingDesk) (c : Cluster)
    (heard : Service → Except ProviderFailure (Option AccessToken) → Prop) (b : Binding) :
    Resolution → Prop where
  | unserved (nobody : d.registry.forUrl? b.spec.repoUrl = none) :
      Rests d c heard b (.failed .unknownServiceProvider
        (SettingsFault.unknownProvider b.spec.repoUrl).message)
  | refused {s : Service} {f : ProviderFailure} (served : d.registry.forUrl? b.spec.repoUrl = some s)
      (absent : labelledToken? c b = none) (refusal : f.isRefusal = true)
      (fails : ∀ a, heard s a → a = .error f) :
      Rests d c heard b (.failed .tokenLookupFailed f.message)
  | labelled {s : Service} {token : AccessToken} (served : d.registry.forUrl? b.spec.repoUrl = some s)
      (stored : labelledToken? c b = some token) : Rests d c heard b (.linked token)

/-- The binding that there is to work on, if there is one, is the one that was left before, and the
tokens are those that were left. What else there is of the binding may have changed. -/
structure Unchanged (k : Key) (left now : Cluster) : Prop where
  tokens : ∀ j, now.tokens.get? j = left.tokens.get? j
  binding : ∀ b, now.bindings.get? k = some b → b.isDeleting = false →
    ∃ w, left.bindings.get? k = some w ∧ w.isDeleting = false ∧ b.spec = w.spec ∧
      b.status = w.status ∧ b.metadata.label? linkLabel = w.metadata.label? linkLabel

variable {d : BindingDesk} {k : Key} {b w left : Binding} {c : Cluster} {g g' : Ground}
  {comes comes' : Nat → Between} {before sought after labels : List Exchange} {x : Exchange}
  {resolution : Resolution} {heard : Service → Except ProviderFailure (Option AccessToken) → Prop}

/-! ## The second pass -/

theorem labelledToken?_eq_some {token : AccessToken} (sound : c.Sound)
    (stored : labelledToken? c b = some token) : Binding.linkedToken? b = some token.metadata.name := by
  obtain ⟨j, linked, found⟩ := Option.bind_eq_some_iff.mp stored
  obtain ⟨name, named, rfl⟩ := Option.map_eq_some_iff.mp linked
  rw [named, show token.metadata.name = name from congrArg Key.name (sound.tokens.filed found)]

theorem Rests.of_unserved (rests : d.Rests c heard b resolution)
    (nobody : d.registry.forUrl? b.spec.repoUrl = none) :
    resolution = .failed .unknownServiceProvider (SettingsFault.unknownProvider b.spec.repoUrl).message := by
  cases rests with
  | unserved _ => rfl
  | refused served _ _ _ | labelled served _ => exact absurd (nobody.symm.trans served) (by simp)

theorem Rests.of_labelled (rests : d.Rests c heard b resolution) {s : Service} {token : AccessToken}
    (served : d.registry.forUrl? b.spec.repoUrl = some s) (stored : labelledToken? c b = some token) :
    resolution = .linked token := by
  cases rests with
  | unserved nobody => exact absurd (nobody.symm.trans served) (by simp)
  | refused _ absent _ _ => exact absurd (absent.symm.trans stored) (by simp)
  | labelled _ here => rw [Option.some.inj (here.symm.trans stored)]

/-- If the label names no token, then what a provider answers is a refusal. -/
theorem Rests.of_absent (rests : d.Rests c heard b resolution) {s : Service}
    {a : Except ProviderFailure (Option AccessToken)}
    (served : d.registry.forUrl? b.spec.repoUrl = some s) (absent : labelledToken? c b = none)
    (told : heard s a) :
    ∃ f, a = .error f ∧ f.isRefusal = true ∧ resolution = .failed .tokenLookupFailed f.message := by
  cases rests with
  | unserved nobody => exact absurd (nobody.symm.trans served) (by simp)
  | refused served' _ refusal fails =>
    obtain rfl := Option.some.inj (served'.symm.trans served)
    exact ⟨_, fails _ told, refusal, rfl⟩
  | labelled _ stored => exact absurd (absent.symm.trans stored) (by simp)

/-- Reads fail by chance alone. -/
theorem refusal_of_unread {j : Key} {f : StoreFailure}
    (fails : x.Tells (.tokens (.get j)) (.error f) ∨ x.Tells (.bindings (.get j)) (.error f)) :
    x.chance.refusal ≠ none := by
  rcases fails with ⟨met, chance, rfl, told⟩ | ⟨met, chance, rfl, told⟩ <;>
  · intro calm
    change chance.refusal = none at calm
    simp [Exchange.answer, Cluster.answer, calm, Store.perform] at told

/-- What was found is found again, and nothing is asked for that changes anything. -/
theorem Sought.again {result : Except Failure Resolution} (seeks : d.Sought b sought result)
    (rests : d.Rests g.cluster heard b resolution) (apart : LeaveTokens comes)
    (parts : ((d.pass k).play comes 0 g).1 = before ++ sought ++ after)
    (early : ∀ x ∈ before, Calm x) (calm : ∀ x ∈ sought, x.chance.refusal = none)
    (hears : ∀ x ∈ sought, ∀ s a, x.Tells (.provider s (.lookup b)) a → heard s a) :
    result = .ok resolution ∧ (∀ x ∈ sought, Glances x.request) ∧
      ∀ token, resolution = .linked token → ∀ x ∈ sought, x.request.looksUp = false := by
  -- a search that asks a provider has not found what the label names, so it ends with a refusal
  have asks {s : Service} {first rest : List Exchange} {x : Exchange}
      {a : Except ProviderFailure (Option AccessToken)}
      (served : d.registry.forUrl? b.spec.repoUrl = some s) (unlabelled : Unlabelled b first)
      (tells : x.Tells (.provider s (.lookup b)) a) (whole : sought = first ++ x :: rest) :
      ∃ f, a = .error f ∧ f.isRefusal = true ∧ resolution = .failed .tokenLookupFailed f.message := by
    have split : ((d.pass k).play comes 0 g).1 = before ++ first ++ (x :: rest ++ after) := by
      simpa [whole] using parts
    exact rests.of_absent served (unlabelled.absent apart split early) (hears x (by simp [whole]) s a tells)
  cases seeks with
  | unserved nobody =>
    obtain rfl := rests.of_unserved nobody
    exact ⟨rfl, by simp, by simp⟩
  | unread served named fails => exact absurd (calm _ (by simp)) (refusal_of_unread (.inl fails))
  | kept served named reads =>
    next s j x token =>
    have split : ((d.pass k).play comes 0 g).1 = before ++ x :: after := by simpa using parts
    have stored := labelledToken?_of_reads named reads (tokens_met_of_calm apart split early)
    obtain rfl := rests.of_labelled served stored
    refine ⟨rfl, ?_, fun _ _ => ?_⟩
    · simpa [reads.request] using .token j
    · simp [reads.request, Request.looksUp]
  | found served unlabelled finds =>
    obtain ⟨f, none, _⟩ := asks served unlabelled finds rfl
    contradiction
  | made served unlabelled misses makes =>
    obtain ⟨f, none, _⟩ := asks served unlabelled misses rfl
    contradiction
  | unmade served unlabelled misses fails =>
    obtain ⟨f, none, _⟩ := asks served unlabelled misses rfl
    contradiction
  | refused served unlabelled fails refusal =>
    next s first x f =>
    obtain ⟨f', same, _, rfl⟩ := asks served unlabelled fails rfl
    obtain rfl := Except.error.inj same
    refine ⟨rfl, forall_mem_snoc ?_ ?_, by simp⟩
    · cases unlabelled with
      | unnamed none => simp
      | gone named misses => simpa [misses.request] using .token _
    · rw [fails.request]
      exact .lookup s b
  | unfound served unlabelled fails passing =>
    obtain ⟨f', same, refusal, _⟩ := asks served unlabelled fails rfl
    obtain rfl := Except.error.inj same
    rw [passing] at refusal
    contradiction

/-- A binding that has the label of its token is not written to link it. -/
theorem Linked.unwritten (linked : Linked b resolution w labels)
    (label : ∀ token, resolution = .linked token → Binding.linkedToken? b = some token.metadata.name) :
    w = b ∧ labels = [] := by
  cases linked with
  | failed reason message => exact ⟨rfl, rfl⟩
  | kept same => exact ⟨rfl, rfl⟩
  | written other writes => exact absurd (label _ rfl) other

/-- A pass over a binding that shows what the pass comes to succeeds, and only looks. -/
theorem still_of_rests (stored : g.cluster.bindings.get? k = some b) (alive : b.isDeleting = false)
    (rests : d.Rests g.cluster (Heard ((d.pass k).play comes 0 g).1) b resolution)
    (status : b.status = statusOf b resolution) (tokens : LeaveTokens comes)
    (bindings : LeaveBindings comes)
    (calm : ∀ x ∈ ((d.pass k).play comes 0 g).1, x.chance.refusal = none) :
    ((d.pass k).play comes 0 g).2 = .ok .await ∧
      (∀ x ∈ ((d.pass k).play comes 0 g).1, Glances x.request) ∧
      ∀ token, resolution = .linked token →
        ∀ x ∈ ((d.pass k).play comes 0 g).1, x.request.looksUp = false := by
  have label : ∀ token, resolution = .linked token →
      Binding.linkedToken? b = some token.metadata.name := by
    rintro token rfl
    cases rests with
    | labelled _ found => exact labelledToken?_eq_some g.sound found
  have ended := d.ended_of_play k g comes
  generalize parts : ((d.pass k).play comes 0 g).1 = past at ended rests calm ⊢
  have again {x : Exchange} {sought after : List Exchange} {result : Except Failure Resolution}
      (reads : Reads k b x) (seeks : d.Sought b sought result) (whole : past = x :: (sought ++ after)) :
      result = .ok resolution ∧ (∀ x ∈ sought, Glances x.request) ∧
        ∀ token, resolution = .linked token → ∀ x ∈ sought, x.request.looksUp = false := by
    have split : ((d.pass k).play comes 0 g).1 = [x] ++ sought ++ after := by simp [parts, whole]
    refine seeks.again rests tokens split ?_ ?_ ?_
    · simpa using calm_of_bindings reads.request
    · exact fun y here => calm y (by simp [whole, here])
    · exact fun y here s a tells => ⟨y, by simp [whole, here], b, tells⟩
  generalize same : ((d.pass k).play comes 0 g).2 = result at ended ⊢
  cases ended with
  | unread fails => exact absurd (calm _ (by simp)) (refusal_of_unread (.inr fails))
  | absent misses =>
    rw [absent_of_misses misses bindings parts] at stored
    contradiction
  | leaving reads deleting =>
    obtain rfl := reads.eq_first bindings parts stored
    rw [alive] at deleting
    contradiction
  | unknown reads _ seeks =>
    obtain rfl := reads.eq_first bindings parts stored
    obtain ⟨none, _⟩ := again reads seeks (congrArg _ (List.append_nil _).symm)
    contradiction
  | unlinked reads _ seeks other fails =>
    obtain rfl := reads.eq_first bindings parts stored
    obtain ⟨found, _⟩ := again reads seeks rfl
    exact absurd (label _ (Except.ok.inj found).symm) other
  | same reads _ seeks linked still =>
    obtain rfl := reads.eq_first bindings parts stored
    obtain ⟨found, glances, unsought⟩ := again reads seeks rfl
    obtain rfl := Except.ok.inj found
    obtain ⟨rfl, rfl⟩ := linked.unwritten label
    refine ⟨rfl, ?_, fun token linked => ?_⟩
    · rw [List.append_nil]
      exact List.forall_mem_cons.mpr ⟨reads.request ▸ .binding k, glances⟩
    · rw [List.append_nil]
      exact List.forall_mem_cons.mpr ⟨by rw [reads.request]; rfl, unsought token linked⟩
  | unstated reads _ seeks linked differs fails =>
    obtain rfl := reads.eq_first bindings parts stored
    obtain ⟨found, _⟩ := again reads seeks (by rw [List.cons_append, List.append_assoc])
    obtain rfl := Except.ok.inj found
    obtain ⟨rfl, rfl⟩ := linked.unwritten label
    exact absurd status.symm differs
  | stated reads _ seeks linked differs states =>
    obtain rfl := reads.eq_first bindings parts stored
    obtain ⟨found, _⟩ := again reads seeks (by rw [List.cons_append, List.append_assoc])
    obtain rfl := Except.ok.inj found
    obtain ⟨rfl, rfl⟩ := linked.unwritten label
    exact absurd status.symm differs

/-- A pass that finds no binding, or one that is to be deleted, only reads it. -/
theorem play_of_idle (idle : ∀ b, g.cluster.bindings.get? k = some b → b.isDeleting = true)
    (apart : LeaveBindings comes) : ∃ x, ((d.pass k).play comes 0 g).1 = [x] ∧
      x.request = .bindings (.get k) ∧
      (x.chance.refusal = none → ((d.pass k).play comes 0 g).2 = .ok .await) := by
  have ended := d.ended_of_play k g comes
  generalize parts : ((d.pass k).play comes 0 g).1 = past at ended ⊢
  generalize ((d.pass k).play comes 0 g).2 = result at ended ⊢
  cases ended with
  | unread fails => exact ⟨_, rfl, fails.request, fun calm => absurd calm (refusal_of_unread (.inr fails))⟩
  | absent misses => exact ⟨_, rfl, misses.request, fun _ => rfl⟩
  | leaving reads deleting => exact ⟨_, rfl, reads.request, fun _ => rfl⟩
  | unknown reads alive _ | unlinked reads alive _ _ _ | same reads alive _ _ _
  | unstated reads alive _ _ _ _ | stated reads alive _ _ _ _ =>
    exact absurd (idle _ (reads.first apart parts)) (by simp [alive])

/-! ## The first pass -/

theorem statusOf_again (same : w.status = statusOf b resolution) :
    statusOf w resolution = w.status := by
  cases resolution with
  | linked token => exact same.symm
  | failed reason message => simp only [statusOf, same]

/-- The token that a binding was linked to is stored, wherever it came from. -/
theorem Origin.stored {past : List Exchange} {token : AccessToken}
    (origin : d.Origin g b past (.linked token))
    (filed : ∀ s t, Heard past s (.ok (some t)) →
      g.cluster.tokens.get? ⟨b.metadata.space, t.metadata.name⟩ = some t) :
    (∃ s, d.registry.forUrl? b.spec.repoUrl = some s) ∧
      (reached g past).tokens.get? ⟨b.metadata.space, token.metadata.name⟩ = some token := by
  cases origin with
  | labelled served found _ spares =>
    refine ⟨⟨_, served⟩, ?_⟩
    rw [spares.kept]
    obtain ⟨j, linked, stored⟩ := Option.bind_eq_some_iff.mp found
    obtain ⟨name, named, rfl⟩ := Option.map_eq_some_iff.mp linked
    rwa [show token.metadata.name = name from congrArg Key.name (g.sound.tokens.filed stored)]
  | found served _ here finds spares =>
    refine ⟨⟨_, served⟩, ?_⟩
    rw [spares.kept]
    exact filed _ _ ⟨_, here, b, finds⟩
  | made served _ _ _ _ _ _ space _ _ stored _ =>
    exact ⟨⟨_, served⟩, space ▸ stored⟩

/-- What a pass has made of a binding rests, as long as nothing that concerns it changes. -/
theorem Bound.rests {past : List Exchange} (bound : d.Bound g b left past resolution)
    (filed : ∀ s t, Heard past s (.ok (some t)) →
      g.cluster.tokens.get? ⟨b.metadata.space, t.metadata.name⟩ = some t)
    (consistent : (reached g past).tokens.Consistent)
    (tokens : ∀ j, c.tokens.get? j = (reached g past).tokens.get? j)
    (space : w.metadata.space = b.metadata.space) (spec : w.spec = b.spec)
    (link : w.metadata.label? linkLabel = linkOf b resolution)
    (repeats : ∀ s a a', Heard past s a → heard s a' → a' = a) : d.Rests c heard w resolution := by
  have linked {token : AccessToken} (origin : d.Origin g b past (.linked token))
      (link : w.metadata.label? linkLabel = some token.metadata.name) :
      d.Rests c heard w (.linked token) := by
    obtain ⟨⟨s, served⟩, stored⟩ := origin.stored filed
    have named : token.metadata.name ≠ "" := (consistent.named stored).2
    have key : Binding.linkedKey? w = some ⟨b.metadata.space, token.metadata.name⟩ := by
      simp [Binding.linkedKey?, Binding.linkedToken?, link, named, space]
    refine .labelled (spec ▸ served) ?_
    rw [labelledToken?, key, Option.bind_some, tokens, stored]
  have origin := bound.origin
  cases origin with
  | unserved nobody _ => exact spec ▸ .unserved (spec ▸ nobody)
  | refused served absent here fails refusal spares =>
    refine .refused (spec ▸ served) ?_ refusal fun a told => repeats _ _ _ ⟨_, here, b, fails⟩ told
    have key : Binding.linkedKey? w = Binding.linkedKey? b := by
      simp only [Binding.linkedKey?, Binding.linkedToken?, link, linkOf, space]
    have same : c.tokens.get? = g.cluster.tokens.get? := by
      funext j
      rw [tokens, spares.kept]
    rw [labelledToken?, key, same]
    exact absent
  | labelled _ _ _ _ => exact linked bound.origin link
  | found _ _ _ _ _ => exact linked bound.origin link
  | made _ _ _ _ _ _ _ _ _ _ _ _ => exact linked bound.origin link

/-- A binding that a pass leaves, and that is not to be deleted, was there when the pass began. -/
theorem begun_of_left (apart : LeaveBindings comes) (alive : left.isDeleting = false)
    (found : (reached g ((d.pass k).play comes 0 g).1).bindings.get? k = some left) :
    ∃ b, g.cluster.bindings.get? k = some b ∧ b.isDeleting = false := by
  by_contra none
  have idle : ∀ b, g.cluster.bindings.get? k = some b → b.isDeleting = true := by
    intro b stored
    by_contra other
    exact none ⟨b, stored, by simpa using other⟩
  obtain ⟨x, parts, reads, _⟩ := play_of_idle (d := d) idle apart
  have left' : reached g [x] = x.cluster := by
    change (x.cluster.answer x.chance x.request).2 = _
    rw [reads, Cluster.answer_read_binding]
  rw [parts, left', met_first apart parts] at found
  have deleting := idle left found
  rw [alive] at deleting
  contradiction

theorem await_of_success {a : Action} (ends : ((d.pass k).play comes 0 g).2 = .ok a) : a = .await := by
  have ended := d.ended_of_play k g comes
  rw [ends] at ended
  generalize ((d.pass k).play comes 0 g).1 = past, same : (.ok a : Except Failure Action) = result at ended
  cases ended with
  | absent _ | leaving _ _ | same _ _ _ _ _ | stated _ _ _ _ _ _ => exact Except.ok.inj same
  | _ => contradiction

/-- A pass that is made again, when neither the tokens nor what concerns the binding have changed and
the providers answer as they did, succeeds without a write. If the first one has linked a token, so that
it did not leave the binding with an error, then no provider is asked to find one. -/
theorem bound_again {outset : Cluster.Outset} (later : (Cluster.empty outset).Later g.cluster)
    (tokens : LeaveTokens comes) (bindings : LeaveBindings comes) {a : Action}
    (ends : ((d.pass k).play comes 0 g).2 = .ok a)
    (filed : ∀ s t, Heard ((d.pass k).play comes 0 g).1 s (.ok (some t)) →
      g.cluster.tokens.get? ⟨k.space, t.metadata.name⟩ = some t)
    (unchanged : Unchanged k (reached g ((d.pass k).play comes 0 g).1) g'.cluster)
    (tokens' : LeaveTokens comes') (bindings' : LeaveBindings comes')
    (calm : ∀ x ∈ ((d.pass k).play comes' 0 g').1, x.chance.refusal = none)
    (repeats : ∀ s a a', Heard ((d.pass k).play comes 0 g).1 s a →
      Heard ((d.pass k).play comes' 0 g').1 s a' → a' = a) :
    ((d.pass k).play comes' 0 g').2 = .ok a ∧
      (∀ x ∈ ((d.pass k).play comes' 0 g').1, Glances x.request) ∧
      ∀ left, (reached g ((d.pass k).play comes 0 g).1).bindings.get? k = some left →
        left.status.phase ≠ .error →
        ∀ x ∈ ((d.pass k).play comes' 0 g').1, x.request.looksUp = false := by
  obtain rfl := await_of_success ends
  by_cases idle : ∀ w, g'.cluster.bindings.get? k = some w → w.isDeleting = true
  · obtain ⟨x, parts, reads, result⟩ := play_of_idle (d := d) idle bindings'
    refine ⟨result (calm x (by simp [parts])), ?_, fun _ _ _ => ?_⟩
    · simpa [parts, reads] using .binding k
    · simp [parts, reads, Request.looksUp]
  · simp only [not_forall] at idle
    obtain ⟨w, stored', alive'⟩ := idle
    replace alive' : w.isDeleting = false := by simpa using alive'
    obtain ⟨left, found, alive, spec, status, link⟩ := unchanged.binding w stored' alive'
    obtain ⟨b, stored, living⟩ := begun_of_left bindings alive found
    obtain ⟨_, left', resolution, found', bound⟩ := bound_of_success stored living tokens bindings ends
    obtain rfl : left = left' := Option.some.inj (found.symm.trans found')
    have space : b.metadata.space = k.space := congrArg Key.space (g.sound.bindings.filed stored)
    have space' : w.metadata.space = k.space := congrArg Key.space (g'.sound.bindings.filed stored')
    have consistent := ((later.trans (later_reached (d.pass k) comes 0 g)).consistent
      (Store.consistent_empty _ _))
    obtain ⟨labels, version, kept⟩ := bound.relinks.kept
    have spec' : w.spec = b.spec := by rw [spec, kept]
    have rests := bound.rests (space ▸ filed) consistent unchanged.tokens (space'.trans space.symm)
      spec' (link.trans bound.relinks.link) repeats
    have again := statusOf_again (status.trans bound.status)
    obtain ⟨result, glances, unsought⟩ :=
      still_of_rests stored' alive' rests again.symm tokens' bindings' calm
    refine ⟨result, glances, fun left' here well => ?_⟩
    obtain rfl : left = left' := Option.some.inj (found.symm.trans here)
    cases resolution with
    | failed reason message => exact absurd (congrArg BindingStatus.phase bound.status) well
    | linked token => exact unsought token rfl

/-- The cluster as the pass has left it that makes a token for a new binding. -/
def tightGround : Ground :=
  ⟨reached looseGround loosePlay.1, looseGround.sound.later (later_reached _ _ _ _)⟩

/-- The next pass over that binding. -/
def tightPlay : List Exchange × Except Failure Action :=
  (servingDesk.pass looseBinding.key).play unheard 0 tightGround

/-- The next pass links the token that the first one has made. The provider still knows of none, and is
not asked. -/
theorem bound_again_tight : looseGround.cluster.tokens.size = 0 ∧ tightGround.cluster.tokens.size = 1 ∧
    tightPlay.2 = .ok .await ∧
    ∀ x ∈ tightPlay.1, Glances x.request ∧ x.request.looksUp = false := by
  have sizes : looseGround.cluster.tokens.size = 0 ∧ tightGround.cluster.tokens.size = 1 := by
    decide +kernel
  have ends : loosePlay.2 = .ok .await := by decide +kernel
  have left : ∀ b ∈ (reached looseGround loosePlay.1).bindings.get? looseBinding.key,
      b.isDeleting = false ∧ b.status.phase ≠ .error := by decide +kernel
  have present : ((reached looseGround loosePlay.1).bindings.get? looseBinding.key).isSome = true := by
    decide +kernel
  have calm {g : Ground} : ∀ x ∈ ((servingDesk.pass looseBinding.key).play unheard 0 g).1,
      x.chance = (unheard 0).chance := by
    intro x here
    obtain ⟨_, same⟩ := chance_of_play here
    exact same
  have misses {g : Ground} {s : Service} {a : Except ProviderFailure (Option AccessToken)}
      (heard : Heard ((servingDesk.pass looseBinding.key).play unheard 0 g).1 s a) : a = .ok none := by
    obtain ⟨x, here, b, met, chance, rfl, told⟩ := heard
    have same : chance = (unheard 0).chance := calm _ here
    subst same
    exact told.symm
  have tokens : LeaveTokens unheard := by simp [LeaveTokens, unheard]
  have bindings : LeaveBindings unheard := by simp [LeaveBindings, unheard]
  have unchanged : Unchanged looseBinding.key (reached looseGround loosePlay.1) tightGround.cluster :=
    ⟨fun _ => rfl, fun b stored alive => ⟨b, stored, alive, rfl, rfl, rfl⟩⟩
  obtain ⟨b, stored⟩ := Option.isSome_iff_exists.mp present
  obtain ⟨result, glances, unsought⟩ := bound_again (Cluster.Later.now.answer .quiet _) tokens bindings ends
    (fun s t heard => absurd (misses heard) (by simp)) unchanged tokens bindings
    (fun x here => by rw [calm x here]; rfl) fun s a a' first second => (misses second).trans (misses first).symm
  exact ⟨sizes.1, sizes.2, result, fun x here =>
    ⟨glances x here, unsought b stored (left b stored).2 x here⟩⟩

end TokenSteward.BindingDesk
