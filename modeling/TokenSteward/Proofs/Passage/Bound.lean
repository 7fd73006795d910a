import TokenSteward.Proofs.Passage.LetGo
import TokenSteward.Proofs.Passage.Sought

/-! # What a pass makes of a binding

A pass that succeeds over a binding has found its token or knows why there is none. The token that the
label names comes first, as long as it is stored; then the one that a provider finds; then a new one.
The label and the status name the token, and nothing else of the binding changes. If there is no token,
then the label stays, and the status says why.
-/

namespace TokenSteward

open TokenSteward.Cluster TokenSteward.Resource TokenSteward.Provider Pass

/-- Whether a request is for a provider to find a token. -/
def Cluster.Request.looksUp : Request → Bool
  | .provider _ (.lookup _) => true
  | _ => false

/-- Whether a request is for a token to be created. -/
def Cluster.Request.createsToken : Request → Bool
  | .tokens (.create _) => true
  | _ => false

namespace BindingDesk

/-- The token that the label of a binding names, if it is stored. -/
def labelledToken? (c : Cluster) (b : Binding) : Option AccessToken :=
  (Binding.linkedKey? b).bind c.tokens.get?

/-- What the label of a binding says once its token was sought after. -/
def linkOf (b : Binding) : Resolution → Option String
  | .linked token => some token.metadata.name
  | .failed _ _ => b.metadata.label? linkLabel

/-- A pass has created no token, and has left all tokens as they were. -/
structure Spares (g : Ground) (past : List Exchange) : Prop where
  uncreated : ∀ x ∈ past, x.request.createsToken = false
  kept : (reached g past).tokens = g.cluster.tokens

/-- Where the token of a binding comes from, or why there is none. -/
inductive Origin (d : BindingDesk) (g : Ground) (b : Binding) (past : List Exchange) :
    Resolution → Prop where
  | unserved (nobody : d.registry.forUrl? b.spec.repoUrl = none) (spares : Spares g past) :
      Origin d g b past (.failed .unknownServiceProvider
        (SettingsFault.unknownProvider b.spec.repoUrl).message)
  | refused {s : Service} {x : Exchange} {f : ProviderFailure}
      (served : d.registry.forUrl? b.spec.repoUrl = some s) (absent : labelledToken? g.cluster b = none)
      (here : x ∈ past) (fails : x.Tells (.provider s (.lookup b)) (.error f))
      (refusal : f.isRefusal = true) (spares : Spares g past) :
      Origin d g b past (.failed .tokenLookupFailed f.message)
  | labelled {s : Service} {token : AccessToken}
      (served : d.registry.forUrl? b.spec.repoUrl = some s)
      (stored : labelledToken? g.cluster b = some token)
      (unsought : ∀ x ∈ past, x.request.looksUp = false) (spares : Spares g past) :
      Origin d g b past (.linked token)
  | found {s : Service} {x : Exchange} {token : AccessToken}
      (served : d.registry.forUrl? b.spec.repoUrl = some s) (absent : labelledToken? g.cluster b = none)
      (here : x ∈ past) (finds : x.Tells (.provider s (.lookup b)) (.ok (some token)))
      (spares : Spares g past) : Origin d g b past (.linked token)
  | made {s : Service} {x y : Exchange} {token : AccessToken}
      (served : d.registry.forUrl? b.spec.repoUrl = some s) (absent : labelledToken? g.cluster b = none)
      (here : x ∈ past) (misses : x.Tells (.provider s (.lookup b)) (.ok none)) (there : y ∈ past)
      (makes : y.Tells (.tokens (.create (freshToken b s))) (.ok token))
      (once : past.countP (·.request.createsToken) = 1)
      (space : token.metadata.space = b.metadata.space)
      (spec : token.spec = ⟨s.baseUrl, b.spec.permissions⟩)
      (fresh : g.cluster.tokens.get? token.key = none)
      (stored : (reached g past).tokens.get? token.key = some token)
      (others : ∀ j, j ≠ token.key → (reached g past).tokens.get? j = g.cluster.tokens.get? j) :
      Origin d g b past (.linked token)

/-- A binding was given a link, and nothing else of it has changed but its version and its status. -/
structure Relinks (b w : Binding) (link : Option String) : Prop where
  kept : ∃ labels version, w = { b with
    metadata := { b.metadata with labels := labels, version := version }
    status := w.status }
  link : w.metadata.label? linkLabel = link
  others : ∀ name, name ≠ linkLabel → w.metadata.label? name = b.metadata.label? name

/-- What a pass that succeeds makes of a binding. -/
structure Bound (d : BindingDesk) (g : Ground) (b left : Binding) (past : List Exchange)
    (resolution : Resolution) : Prop where
  origin : d.Origin g b past resolution
  relinks : Relinks b left (linkOf b resolution)
  status : left.status = statusOf b resolution

variable {d : BindingDesk} {k : Key} {b w left : Binding} {g : Ground} {comes : Nat → Between}
  {past before sought after labels : List Exchange} {x : Exchange} {resolution : Resolution}

/-! ## The token -/

/-- An exchange creates no token and leaves all tokens as they were. -/
structure Calm (x : Exchange) : Prop where
  uncreated : x.request.createsToken = false
  tokens : x.left.tokens = x.cluster.tokens

theorem calm_of_bindings {q : StoreRequest BindingSpec BindingStatus} (asks : x.request = .bindings q) :
    Calm x :=
  ⟨by rw [asks]; rfl, x.cluster.tokens_answer x.chance x.request (by simp [asks])⟩

theorem calm_of_provider {s : Service} {q : ProviderRequest} (asks : x.request = .provider s q) :
    Calm x :=
  ⟨by rw [asks]; rfl, x.cluster.tokens_answer x.chance x.request (by simp [asks])⟩

theorem calm_of_get {j : Key} (asks : x.request = .tokens (.get j)) : Calm x := by
  refine ⟨by rw [asks]; rfl, ?_⟩
  rw [Exchange.left, asks, Cluster.answer_read_token]

theorem Unlabelled.calm (before : Unlabelled b past) : ∀ x ∈ past, Calm x := by
  cases before with
  | unnamed none => simp
  | gone named misses => simpa using calm_of_get misses.request

/-- If all exchanges are calm, then all tokens are as they were. -/
theorem tokens_of_calm (apart : LeaveTokens comes)
    (parts : ((d.pass k).play comes 0 g).1 = past ++ after) (calm : ∀ x ∈ past, Calm x) :
    (reached g past).tokens = g.cluster.tokens := by
  have split : ((d.pass k).play comes 0 g).1 = [] ++ past ++ after := parts
  exact kept_of_apart (fun _ _ => rfl) apart.tokens_answer split fun x here => (calm x here).tokens

theorem spares_of_calm (apart : LeaveTokens comes) (parts : ((d.pass k).play comes 0 g).1 = past)
    (calm : ∀ x ∈ past, Calm x) : Spares g past := by
  have split : ((d.pass k).play comes 0 g).1 = past ++ [] := by rw [parts, List.append_nil]
  exact ⟨fun x here => (calm x here).uncreated, tokens_of_calm apart split calm⟩

/-- After calm exchanges a request meets the tokens as they were. -/
theorem tokens_met_of_calm (apart : LeaveTokens comes)
    (parts : ((d.pass k).play comes 0 g).1 = past ++ x :: after) (calm : ∀ x ∈ past, Calm x) :
    x.cluster.tokens = g.cluster.tokens :=
  (met_of_apart (fun _ _ => rfl) apart.tokens_answer parts).trans (tokens_of_calm apart parts calm)

/-- If all exchanges after one are calm, then the tokens stay as that one has left them. -/
theorem tokens_after (apart : LeaveTokens comes)
    (parts : ((d.pass k).play comes 0 g).1 = past ++ x :: after) (calm : ∀ y ∈ after, Calm y) :
    (reached g (past ++ x :: after)).tokens = x.left.tokens := by
  have split : ((d.pass k).play comes 0 g).1 = past ++ [x] ++ after ++ [] := by simpa using parts
  have kept : (reached g (past ++ [x] ++ after)).tokens = (reached g (past ++ [x])).tokens :=
    kept_of_apart (fun _ _ => rfl) apart.tokens_answer split fun y here => (calm y here).tokens
  rw [List.append_cons, kept, reached_snoc]

theorem creations_of_calm (calm : ∀ x ∈ past, Calm x) : past.countP (·.request.createsToken) = 0 :=
  List.countP_eq_zero.mpr fun x here => by simp [(calm x here).uncreated]

/-- What was read under the label is what the label names. -/
theorem labelledToken?_of_reads {j : Key} {found : Option AccessToken}
    (named : Binding.linkedKey? b = some j) (reads : x.Tells (.tokens (.get j)) (.ok found))
    (met : x.cluster.tokens = g.cluster.tokens) : labelledToken? g.cluster b = found := by
  have read : x.cluster.tokens.get? j = found := Except.ok.inj (Prod.mk.inj reads.tokens).1
  rw [labelledToken?, named, Option.bind_some, ← met, read]

theorem Unlabelled.absent {first : List Exchange} (unlabelled : Unlabelled b first)
    (apart : LeaveTokens comes) (parts : ((d.pass k).play comes 0 g).1 = before ++ first ++ after)
    (calm : ∀ x ∈ before, Calm x) : labelledToken? g.cluster b = none := by
  cases unlabelled with
  | unnamed none => rw [labelledToken?, none, Option.bind_none]
  | gone named misses =>
    next j x =>
    have split : ((d.pass k).play comes 0 g).1 = before ++ x :: after := by simpa using parts
    exact labelledToken?_of_reads named misses (tokens_met_of_calm apart split calm)

/-- A token that is made for a binding is a new one with the provider's URL and the binding's
permissions. -/
theorem made_of_create {s : Service} {token : AccessToken}
    (makes : x.Tells (.tokens (.create (freshToken b s))) (.ok token)) :
    token.metadata.space = b.metadata.space ∧ token.spec = ⟨s.baseUrl, b.spec.permissions⟩ ∧
      x.cluster.tokens.get? token.key = none ∧ x.left.tokens.get? token.key = some token ∧
      ∀ j, j ≠ token.key → x.left.tokens.get? j = x.cluster.tokens.get? j := by
  have done : x.cluster.tokens.create x.cluster.now (freshToken b s) = (.ok token, x.left.tokens) :=
    makes.tokens
  rcases x.cluster.tokens.create_cases x.cluster.now (freshToken b s) with
    ⟨f, failed⟩ | ⟨name, s', made, absent, wrote⟩
  · rw [failed] at done
    cases done
  · rw [made] at done
    obtain ⟨same, rfl⟩ := Prod.mk.inj done
    obtain rfl := Except.ok.inj same
    exact ⟨rfl, rfl, absent, wrote.get?_self, fun j other => wrote.get?_of_ne other⟩

/-- Where the token comes from that a search has led to. -/
theorem origin_of_sought (seeks : d.Sought b sought (.ok resolution)) (apart : LeaveTokens comes)
    (parts : ((d.pass k).play comes 0 g).1 = before ++ sought ++ after)
    (front : ∀ x ∈ before, ∃ q, x.request = .bindings q)
    (back : ∀ x ∈ after, ∃ q, x.request = .bindings q) :
    d.Origin g b (before ++ sought ++ after) resolution := by
  have early : ∀ x ∈ before, Calm x := fun x here => calm_of_bindings (front x here).choose_spec
  have late : ∀ x ∈ after, Calm x := fun x here => calm_of_bindings (back x here).choose_spec
  have spares (calm : ∀ x ∈ sought, Calm x) : Spares g (before ++ sought ++ after) := by
    refine spares_of_calm apart parts fun x here => ?_
    rcases List.mem_append.mp here with there | there
    · rcases List.mem_append.mp there with there | there
      · exact early x there
      · exact calm x there
    · exact late x there
  have among {x : Exchange} (here : x ∈ sought) : x ∈ before ++ sought ++ after :=
    List.mem_append_left _ (List.mem_append_right _ here)
  generalize same : (.ok resolution : Except Failure Resolution) = result at seeks
  cases seeks with
  | unserved nobody =>
    obtain rfl := Except.ok.inj same
    exact .unserved nobody (spares (by simp))
  | @kept s j x token served named reads =>
    obtain rfl := Except.ok.inj same
    have split : ((d.pass k).play comes 0 g).1 = before ++ x :: after := by simpa using parts
    have met := tokens_met_of_calm apart split early
    refine .labelled served (labelledToken?_of_reads named reads met) (fun y here => ?_)
      (spares (by simpa using calm_of_get reads.request))
    have kinds : (∃ q, y.request = .bindings q) ∨ y = x := by grind
    rcases kinds with ⟨q, asks⟩ | rfl
    · rw [asks]
      rfl
    · rw [reads.request]
      rfl
  | @found s first x token served unlabelled finds =>
    obtain rfl := Except.ok.inj same
    have split : ((d.pass k).play comes 0 g).1 = before ++ first ++ (x :: after) := by simpa using parts
    exact .found served (unlabelled.absent apart split early) (among (by simp)) finds
      (spares (forall_mem_snoc unlabelled.calm (calm_of_provider finds.request)))
  | @refused s first x f served unlabelled fails refusal =>
    obtain rfl := Except.ok.inj same
    have split : ((d.pass k).play comes 0 g).1 = before ++ first ++ (x :: after) := by simpa using parts
    exact .refused served (unlabelled.absent apart split early) (among (by simp)) fails refusal
      (spares (forall_mem_snoc unlabelled.calm (calm_of_provider fails.request)))
  | @made s first x y token served unlabelled misses makes =>
    obtain rfl := Except.ok.inj same
    have split : ((d.pass k).play comes 0 g).1 = before ++ first ++ (x :: y :: after) := by
      simpa using parts
    have calm : ∀ z ∈ before ++ first ++ [x], Calm z := by
      refine forall_mem_snoc (List.forall_mem_append.mpr ⟨early, unlabelled.calm⟩) ?_
      exact calm_of_provider misses.request
    have next : ((d.pass k).play comes 0 g).1 = before ++ first ++ [x] ++ y :: after := by
      simpa using parts
    have met := tokens_met_of_calm apart next calm
    have last := tokens_after apart next late
    have shape : before ++ (first ++ [x, y]) ++ after = before ++ first ++ [x] ++ y :: after := by simp
    obtain ⟨space, spec, fresh, stored, others⟩ := made_of_create makes
    rw [shape]
    refine .made served (unlabelled.absent apart split early) (by simp) misses (by simp) makes ?_ space
      spec (met ▸ fresh) (last ▸ stored) fun j other => ?_
    · rw [List.countP_append, List.countP_cons, creations_of_calm calm, creations_of_calm late,
        makes.request]
      rfl
    · rw [last, others j other, met]
  | _ => contradiction

/-! ## The binding -/

theorem relinks_refl (b : Binding) : Relinks b b (b.metadata.label? linkLabel) :=
  ⟨⟨_, _, rfl⟩, rfl, fun _ _ => rfl⟩

/-- A binding whose label names a token is linked to it. -/
theorem label?_of_linkedToken? {name : String} (same : Binding.linkedToken? b = some name) :
    b.metadata.label? linkLabel = some name :=
  (Option.filter_eq_some_iff.mp same).1

theorem relinks_labelled (b : Binding) (name : String) (version : Nat) :
    Relinks b ((labelled b name).withVersion version) (some name) where
  kept := ⟨_, _, rfl⟩
  link := Table.get?_insert_self _ _ _
  others _ other := Table.get?_insert_of_ne _ _ other.symm

/-- A status has no part in the links of a binding. -/
theorem Relinks.restated {link : Option String} (relinks : Relinks b w link) (status : BindingStatus)
    (version : Nat) : Relinks b ({ w with status := status }.withVersion version) link := by
  obtain ⟨⟨labels, version', same⟩, here, others⟩ := relinks
  refine ⟨⟨labels, version, ?_⟩, here, others⟩
  rw [same]
  rfl

/-- The copy that a status is written on is the binding with the link that was sought after, and it is
stored. -/
theorem Linked.stored {labels : List Exchange} (linked : Linked b resolution w labels)
    (alive : b.isDeleting = false) (apart : LeaveBindings comes)
    (parts : ((d.pass k).play comes 0 g).1 = before ++ labels ++ after)
    (found : (reached g before).bindings.get? k = some b) :
    Relinks b w (linkOf b resolution) ∧ w.status = b.status ∧
      (reached g (before ++ labels)).bindings.get? k = some w := by
  cases linked with
  | failed reason message =>
    rw [List.append_nil]
    exact ⟨relinks_refl b, rfl, found⟩
  | kept same =>
    rw [List.append_nil]
    refine ⟨?_, rfl, found⟩
    have relinks := relinks_refl b
    rw [label?_of_linkedToken? same] at relinks
    exact relinks
  | written other writes =>
    next token x =>
    have split : ((d.pass k).play comes 0 g).1 = before ++ x :: after := by simpa using parts
    have met : x.cluster.bindings = (reached g before).bindings :=
      met_of_apart (fun _ _ => rfl) apart.bindings_answer split
    rw [← met] at found
    have filed : b.key = k := x.sound.bindings.filed found
    obtain ⟨_, rfl, written⟩ := written_of_label (x.sound.bindings.snapshot found) alive writes
    refine ⟨relinks_labelled b _ _, rfl, ?_⟩
    rw [reached_snoc, written]
    exact Store.get?_write_self _ filed

theorem Sought.ne_bindings {result : Except Failure Resolution} (seeks : d.Sought b sought result) :
    ∀ x ∈ sought, ∀ q, x.request ≠ .bindings q := by
  have before {first : List Exchange} (unlabelled : Unlabelled b first) :
      ∀ x ∈ first, ∀ q, x.request ≠ .bindings q := by
    cases unlabelled with
    | unnamed none => simp
    | gone named misses => simp [misses.request]
  cases seeks with
  | unserved nobody => simp
  | unread served named fails => simp [fails.request]
  | kept served named reads => simp [reads.request]
  | found served unlabelled finds => exact forall_mem_snoc (before unlabelled) (by simp [finds.request])
  | made served unlabelled misses makes =>
    rw [List.append_cons]
    exact forall_mem_snoc (forall_mem_snoc (before unlabelled) (by simp [misses.request]))
      (by simp [makes.request])
  | unmade served unlabelled misses fails =>
    rw [List.append_cons]
    exact forall_mem_snoc (forall_mem_snoc (before unlabelled) (by simp [misses.request]))
      (by simp [fails.request])
  | refused served unlabelled fails refusal =>
    exact forall_mem_snoc (before unlabelled) (by simp [fails.request])
  | unfound served unlabelled fails passing =>
    exact forall_mem_snoc (before unlabelled) (by simp [fails.request])

theorem Linked.bindings (linked : Linked b resolution w labels) :
    ∀ x ∈ labels, ∃ q, x.request = .bindings q := by
  cases linked with
  | failed reason message => simp
  | kept same => simp
  | written other writes => simpa using ⟨_, writes.request⟩

/-- The first request meets the bindings as they were when the pass began. -/
theorem met_first (apart : LeaveBindings comes)
    (parts : ((d.pass k).play comes 0 g).1 = x :: after) : x.cluster.bindings = g.cluster.bindings := by
  have first : ((d.pass k).play comes 0 g).1 = [] ++ x :: after := parts
  exact met_of_apart (fun _ _ => rfl) apart.bindings_answer first

/-- The binding that is read first is the one that is stored when the pass begins. -/
theorem Reads.first (reads : Reads k b x) (apart : LeaveBindings comes)
    (parts : ((d.pass k).play comes 0 g).1 = x :: after) : g.cluster.bindings.get? k = some b :=
  met_first apart parts ▸ reads.stored.1

theorem Reads.eq_first {stored : Binding} (reads : Reads k b x) (apart : LeaveBindings comes)
    (parts : ((d.pass k).play comes 0 g).1 = x :: after)
    (found : g.cluster.bindings.get? k = some stored) : b = stored :=
  Option.some.inj ((reads.first apart parts).symm.trans found)

/-- If no binding is read first, then none was stored when the pass began. -/
theorem absent_of_misses (misses : x.Tells (.bindings (.get k)) (.ok none)) (apart : LeaveBindings comes)
    (parts : ((d.pass k).play comes 0 g).1 = x :: after) : g.cluster.bindings.get? k = none :=
  met_first apart parts ▸ Except.ok.inj (Prod.mk.inj misses.bindings).1

/-- What is left before a status is written: the binding with the link that was sought after. -/
theorem linked_of_sought {result : Except Failure Resolution} (reads : Reads k b x)
    (alive : b.isDeleting = false) (seeks : d.Sought b sought result)
    (linked : Linked b resolution w labels) (apart : LeaveBindings comes)
    (parts : ((d.pass k).play comes 0 g).1 = [x] ++ sought ++ labels ++ after) :
    Relinks b w (linkOf b resolution) ∧ w.status = b.status ∧
      (reached g ([x] ++ sought ++ labels)).bindings.get? k = some w := by
  have split : ((d.pass k).play comes 0 g).1 = [x] ++ sought ++ (labels ++ after) := by simpa using parts
  have kept : (reached g ([x] ++ sought)).bindings = (reached g [x]).bindings :=
    kept_of_apart (fun _ _ => rfl) apart.bindings_answer split fun y here =>
      y.cluster.bindings_answer y.chance y.request (seeks.ne_bindings y here)
  refine linked.stored alive apart parts ?_
  rw [kept]
  change x.left.bindings.get? k = _
  rw [reads.stored.2]
  exact reads.stored.1

/-- What a pass makes of a binding that succeeds. -/
theorem bound_of_success (stored : g.cluster.bindings.get? k = some b) (alive : b.isDeleting = false)
    (tokens : LeaveTokens comes) (bindings : LeaveBindings comes) {a : Action}
    (ends : ((d.pass k).play comes 0 g).2 = .ok a) :
    a = .await ∧ ∃ left resolution,
      (reached g ((d.pass k).play comes 0 g).1).bindings.get? k = some left ∧
      d.Bound g b left ((d.pass k).play comes 0 g).1 resolution := by
  have ended := d.ended_of_play k g comes
  rw [ends] at ended
  generalize parts : ((d.pass k).play comes 0 g).1 = past at ended ⊢
  generalize same : (.ok a : Except Failure Action) = result at ended
  cases ended with
  | absent misses =>
    rw [absent_of_misses misses bindings parts] at stored
    contradiction
  | leaving reads deleting =>
    obtain rfl := reads.eq_first bindings parts stored
    rw [alive] at deleting
    contradiction
  | @same b' w x sought labels resolution reads _ seeks linked still =>
    obtain rfl := reads.eq_first bindings parts stored
    obtain rfl := Except.ok.inj same
    have split : ((d.pass k).play comes 0 g).1 = [x] ++ sought ++ labels := by simpa using parts
    have whole : ((d.pass k).play comes 0 g).1 = [x] ++ sought ++ labels ++ [] := by simpa using parts
    obtain ⟨relinks, _, found⟩ := linked_of_sought reads alive seeks linked bindings whole
    have origin := origin_of_sought seeks tokens split (by simpa using ⟨_, reads.request⟩)
      linked.bindings
    have shape : x :: (sought ++ labels) = [x] ++ sought ++ labels := by simp
    rw [shape]
    exact ⟨rfl, w, resolution, found, origin, relinks, still.symm⟩
  | @stated b' w _ x y sought labels resolution reads _ seeks linked differs states =>
    obtain rfl := reads.eq_first bindings parts stored
    obtain rfl := Except.ok.inj same
    have split : ((d.pass k).play comes 0 g).1 = [x] ++ sought ++ (labels ++ [y]) := by
      simpa using parts
    have whole : ((d.pass k).play comes 0 g).1 = [x] ++ sought ++ labels ++ y :: [] := by
      simpa using parts
    obtain ⟨relinks, _, found⟩ := linked_of_sought reads alive seeks linked bindings whole
    have origin := origin_of_sought seeks tokens split (by simpa using ⟨_, reads.request⟩)
      (forall_mem_snoc linked.bindings ⟨_, states.request⟩)
    have met : y.cluster.bindings = (reached g ([x] ++ sought ++ labels)).bindings :=
      met_of_apart (fun _ _ => rfl) bindings.bindings_answer whole
    rw [← met] at found
    have filed : w.key = k := y.sound.bindings.filed found
    obtain ⟨_, _, written⟩ := (y.sound.bindings.snapshot found).updateStatus_cases differs states.bindings
    have shape : x :: (sought ++ labels) ++ [y] = [x] ++ sought ++ (labels ++ [y]) := by simp
    have last : reached g ([x] ++ sought ++ (labels ++ [y])) = y.left := by
      rw [← List.append_assoc]
      exact reached_snoc g _ y
    rw [shape]
    let restated := { w with status := statusOf b' resolution }.withVersion (y.cluster.bindings.version + 1)
    refine ⟨rfl, restated, resolution, ?_, origin, relinks.restated _ _, rfl⟩
    rw [last, written]
    exact Store.get?_write_self _ filed
  | _ => contradiction

/-! ## The link -/

/-- What an exchange makes of a stored binding: no more than its link, its version and its status
change, and the link stays if the token that it names was stored all the while. -/
def Keeps (past : List Exchange) (x : Exchange) : Prop :=
  ∀ (j : Key) (b : Binding), x.cluster.bindings.get? j = some b →
    ∃ w, x.left.bindings.get? j = some w ∧ Relinks b w (w.metadata.label? linkLabel) ∧
      ∀ key, Binding.linkedKey? b = some key →
        (∀ y ∈ past, (y.cluster.tokens.get? key).isSome = true) →
        w.metadata.label? linkLabel = b.metadata.label? linkLabel

theorem keeps_of_same (same : x.left.bindings = x.cluster.bindings) : Keeps past x :=
  fun _ b found => ⟨b, same ▸ found, relinks_refl b, fun _ _ _ => rfl⟩

/-- A write at one key keeps the bindings at all others. -/
theorem keeps_of_write (stored : x.cluster.bindings.get? k = some b)
    (written : x.left.bindings = x.cluster.bindings.write w) (filed : w.key = k)
    (relinks : Relinks b w (w.metadata.label? linkLabel))
    (link : ∀ key, Binding.linkedKey? b = some key →
      (∀ y ∈ past, (y.cluster.tokens.get? key).isSome = true) →
      w.metadata.label? linkLabel = b.metadata.label? linkLabel) : Keeps past x := by
  intro j b' found
  rw [written]
  by_cases here : j = k
  · subst here
    obtain rfl : b = b' := Option.some.inj (stored.symm.trans found)
    exact ⟨w, Store.get?_write_self _ filed, relinks, link⟩
  · have apart : j ≠ w.key := filed ▸ here
    exact ⟨b', (Store.get?_write_of_ne _ apart).trans found, relinks_refl b', fun _ _ _ => rfl⟩

/-- As long as the token is stored that the label names, no search finds another one. -/
theorem Sought.label_of_stored {token : AccessToken} {key : Key}
    (seeks : d.Sought b sought (.ok (.linked token))) (named : Binding.linkedKey? b = some key)
    (stays : ∀ y ∈ sought, (y.cluster.tokens.get? key).isSome = true) :
    b.metadata.label? linkLabel = some token.metadata.name := by
  have never {first : List Exchange} (unlabelled : Unlabelled b first)
      (stays : ∀ y ∈ first, (y.cluster.tokens.get? key).isSome = true) : False := by
    cases unlabelled with
    | unnamed none => exact Option.some_ne_none _ (named.symm.trans none)
    | gone other misses =>
      next j x =>
      obtain rfl : key = j := Option.some.inj (named.symm.trans other)
      have absent : x.cluster.tokens.get? key = none := Except.ok.inj (Prod.mk.inj misses.tokens).1
      have present := stays x List.mem_cons_self
      rw [absent] at present
      contradiction
  cases seeks with
  | kept served other reads =>
    next j x =>
    have found : x.cluster.tokens.get? j = some token := Except.ok.inj (Prod.mk.inj reads.tokens).1
    obtain ⟨name, linked, rfl⟩ := Option.map_eq_some_iff.mp other
    have filed : token.key = ⟨b.metadata.space, name⟩ := x.sound.tokens.filed found
    have same : token.metadata.name = name := congrArg Key.name filed
    rw [same]
    exact label?_of_linkedToken? linked
  | found served unlabelled finds =>
    exact (never unlabelled fun y here => stays y (List.mem_append_left _ here)).elim
  | made served unlabelled misses makes =>
    exact (never unlabelled fun y here => stays y (List.mem_append_left _ here)).elim

/-- Every step of a pass keeps the bindings. -/
theorem keeps_of_timely (timely : d.Timely k past x) : Keeps past x := by
  cases timely with
  | idle other same => exact keeps_of_same same
  | rejected fails same => exact keeps_of_same (by rw [same])
  | labelled begins reads yields stored written =>
    next b y sought token =>
    have filed : b.key = k := x.sound.bindings.filed stored
    have relinks := relinks_labelled b token.metadata.name (x.cluster.bindings.version + 1)
    refine keeps_of_write stored written filed (relinks.link ▸ relinks) fun key named stays => ?_
    rw [begins] at stays
    have label := (sought_of_yields yields).label_of_stored named fun z here =>
      stays z (List.mem_cons_of_mem _ here)
    rw [label, relinks.link]
  | restated parts reads yields same asks stored written =>
    next b w y sought labels resolution =>
    have filed : w.key = k := x.sound.bindings.filed stored
    exact keeps_of_write stored written filed ((relinks_refl w).restated _ _) fun _ _ _ => rfl

/-- A pass that succeeds leaves the binding as its token has it. And whether or not a pass succeeds, and
whatever others do meanwhile, nothing but the link, the version and the status of a binding changes, and
the link stays if the token that it names was stored at all steps. -/
theorem bound_and_kept (d : BindingDesk) (k : Key) (g : Ground) (comes : Nat → Between) :
    (∀ (b : Binding) (a : Action), g.cluster.bindings.get? k = some b → b.isDeleting = false →
      LeaveTokens comes → LeaveBindings comes → ((d.pass k).play comes 0 g).2 = .ok a →
      a = .await ∧ ∃ left resolution,
        (reached g ((d.pass k).play comes 0 g).1).bindings.get? k = some left ∧
        d.Bound g b left ((d.pass k).play comes 0 g).1 resolution) ∧
    ∀ (past late : List Exchange) (x : Exchange),
      ((d.pass k).play comes 0 g).1 = past ++ x :: late → Keeps past x := by
  constructor
  · intro b a stored alive tokens bindings ends
    exact bound_of_success stored alive tokens bindings ends
  · intro past late x parts
    exact keeps_of_timely (timely_of_step (step_of_reaches (reaches_of_play parts)) (ordered_of_play parts))

/-- A binding that no token is linked to. -/
def looseBinding : Binding := .fresh (Metadata.named "dev" "ci") "https://git.example/a" .none

/-- A desk with a provider for that binding. -/
def servingDesk : BindingDesk := ⟨[⟨default, "https://git.example", fun _ => []⟩]⟩

/-- A cluster with that binding alone. -/
def looseGround : Ground := (Ground.bare (.serial 5)).answer .quiet (.bindings (.create looseBinding))

/-- Nobody else asks for anything, and the provider knows of no token. -/
def unheard (_ : Nat) : Between :=
  ⟨[], 7, .calm fun
    | _, .lookup _ => .ok none
    | _, .validate _ _ => .error (.unavailable "")
    | _, .persist _ _ => .error (.unavailable "")⟩

/-- The pass over the binding there. -/
def loosePlay : List Exchange × Except Failure Action :=
  (servingDesk.pass looseBinding.key).play unheard 0 looseGround

/-- A binding that is seen for the first time is linked to a new token, and the write of its status
keeps the link. -/
theorem bound_and_kept_loose : ∃ b left token past x,
    looseGround.cluster.bindings.get? looseBinding.key = some b ∧ b.metadata.label? linkLabel = none ∧
    (reached looseGround loosePlay.1).bindings.get? looseBinding.key = some left ∧
    servingDesk.Bound looseGround b left loosePlay.1 (.linked token) ∧
    left.metadata.label? linkLabel = some token.metadata.name ∧
    loosePlay.1 = past ++ [x] ∧ Keeps past x := by
  have present : (looseGround.cluster.bindings.get? looseBinding.key).isSome = true := by decide +kernel
  have facts : ∀ b ∈ looseGround.cluster.bindings.get? looseBinding.key,
      b.isDeleting = false ∧ b.metadata.label? linkLabel = none := by decide +kernel
  have played : loosePlay.1.length = 5 ∧ loosePlay.2 = .ok .await ∧
      ∀ left ∈ (reached looseGround loosePlay.1).bindings.get? looseBinding.key,
        left.status.phase ≠ .error := by decide +kernel
  obtain ⟨b, stored⟩ := Option.isSome_iff_exists.mp present
  obtain ⟨alive, unlinked⟩ := facts b stored
  obtain ⟨long, ends, linked⟩ := played
  have tokens : LeaveTokens unheard := by simp [LeaveTokens, unheard]
  have bindings : LeaveBindings unheard := by simp [LeaveBindings, unheard]
  obtain ⟨bound, keeps⟩ := bound_and_kept servingDesk looseBinding.key looseGround unheard
  obtain ⟨_, left, resolution, found, bound⟩ := bound b _ stored alive tokens bindings ends
  have parts : loosePlay.1 = loosePlay.1.take 4 ++ [loosePlay.1[4]] := by
    rw [← List.take_succ_eq_append_getElem]
    exact (List.take_of_length_le (Nat.le_of_eq long)).symm
  cases resolution with
  | failed reason message => exact absurd (congrArg BindingStatus.phase bound.status) (linked left found)
  | linked token =>
    exact ⟨b, left, token, _, _, stored, unlinked, found, bound, bound.relinks.link, parts,
      keeps _ _ _ parts⟩

end BindingDesk

end TokenSteward
