import TokenSteward.Proofs.Cluster.Listing
import TokenSteward.Proofs.Passage.Decided
import TokenSteward.Proofs.Snoc

/-! # What letting a token go comes to

A pass over a token whose deletion is requested takes off the guard for bindings if none of them is
linked to the token, and the guard for the record if that was deleted in this very pass. Both come off
in one write, which is not made if nothing comes off. It removes the token if no guard is left.
-/

namespace TokenSteward

open TokenSteward.Cluster TokenSteward.Resource TokenSteward.Secret Pass

/-- Nobody else asks the bindings' store for anything. -/
def LeaveBindings (comes : Nat → Between) : Prop :=
  ∀ n, ∀ o ∈ (comes n).others, ∀ q, o.2 ≠ .bindings q

theorem LeaveBindings.bindings_answer {comes : Nat → Between} (apart : LeaveBindings comes) :
    ∀ n, ∀ o ∈ (comes n).others, ∀ c : Cluster, (c.answer o.1 o.2).2.bindings = c.bindings :=
  fun n o here c => c.bindings_answer o.1 o.2 (apart n o here)

/-- Whether a request writes to the tokens' store. -/
def Cluster.Request.writesTokens : Request → Bool
  | .tokens (.get _) => false
  | .tokens (.list _ _) => false
  | .tokens _ => true
  | _ => false

namespace TokenDesk

/-- Some binding in the namespace of a token is labelled with the token's name. -/
def IsLinked (c : Cluster) (t : AccessToken) : Prop :=
  ∃ k b, c.bindings.get? k = some b ∧ b.metadata.space = t.metadata.space ∧
    b.metadata.label? linkLabel = some t.metadata.name

/-- The guards that stay: the one for bindings if they block the deletion, the one for the record if
that is not gone, and all others. -/
def keptGuards (t : AccessToken) (blocked gone : Bool) : List String :=
  t.metadata.guards.filter fun guard =>
    (guard != bindingsGuard || blocked) && (guard != secretGuard || !gone)

/-- The token with the guards that stay. -/
def keeping (t : AccessToken) (blocked gone : Bool) : AccessToken :=
  { t with metadata := { t.metadata with guards := keptGuards t blocked gone } }

/-- The bindings that were found block the deletion. -/
def isBlocked (t : AccessToken) (linked : List Binding) : Bool :=
  t.metadata.hasGuard bindingsGuard && !linked.isEmpty

/-- The record that is guarded was deleted. -/
def isCleared (t : AccessToken) (outcome : Except VaultFailure Unit) : Bool :=
  t.metadata.hasGuard secretGuard && outcome.isOk

variable {d : TokenDesk} {k : Key} {t : AccessToken} {past : List Exchange}

/-! ## What is taken off -/

theorem keptGuards_eq_self {blocked gone : Bool}
    (held : t.metadata.hasGuard bindingsGuard = true → blocked = true)
    (kept : t.metadata.hasGuard secretGuard = true → gone = false) :
    keptGuards t blocked gone = t.metadata.guards := by
  refine List.filter_eq_self.mpr fun guard here => ?_
  by_cases first : guard = bindingsGuard
  · subst first
    have other : bindingsGuard ≠ secretGuard := by decide
    simp [held (by simpa [Metadata.hasGuard] using here), other]
  · by_cases second : guard = secretGuard
    · subst second
      simp [kept (by simpa [Metadata.hasGuard] using here), first]
    · simp [first, second]

theorem unlinked_eq {linked : List Binding} : unlinked t linked = keeping t (isBlocked t linked) false := by
  unfold unlinked isBlocked
  split
  · next free =>
    rw [Bool.and_eq_true] at free
    simp [keeping, keptGuards, released, Metadata.removeGuard, free.1, free.2]
  · next not =>
    have same : keptGuards t (t.metadata.hasGuard bindingsGuard && !linked.isEmpty) false =
        t.metadata.guards := by
      refine keptGuards_eq_self (fun held => ?_) fun _ => rfl
      simpa [held] using not
    simp [keeping, same]

theorem hasGuard_unlinked (t : AccessToken) (linked : List Binding) :
    (unlinked t linked).metadata.hasGuard secretGuard = t.metadata.hasGuard secretGuard := by
  unfold unlinked
  split
  · have other : secretGuard ≠ bindingsGuard := by decide
    simp [released, Metadata.hasGuard_removeGuard, other]
  · rfl

/-- The guards come off one after the other. -/
theorem released_keeping (t : AccessToken) (blocked : Bool) :
    released (keeping t blocked false) secretGuard = keeping t blocked true := by
  have same : (keptGuards t blocked false).filter (· != secretGuard) = keptGuards t blocked true := by
    unfold keptGuards
    rw [List.filter_filter]
    refine List.filter_congr fun guard _ => ?_
    cases guard != bindingsGuard || blocked <;> simp
  simp only [released, keeping, Metadata.removeGuard, same]

/-- What letting go takes off. -/
theorem cleaned_eq (t : AccessToken) (linked : List Binding) (outcome : Except VaultFailure Unit) :
    cleaned (unlinked t linked) outcome = keeping t (isBlocked t linked) (isCleared t outcome) := by
  have guarded := hasGuard_unlinked t linked
  cases outcome with
  | error f =>
    have uncleared : isCleared t (.error f) = false := Bool.and_false _
    rw [uncleared]
    exact unlinked_eq
  | ok u =>
    have first : cleaned (unlinked t linked) (.ok u) =
        if t.metadata.hasGuard secretGuard then released (unlinked t linked) secretGuard
        else unlinked t linked := by
      rw [← guarded]
      rfl
    have cleared : isCleared t (.ok u) = t.metadata.hasGuard secretGuard := Bool.and_true _
    rw [first, unlinked_eq, cleared]
    cases t.metadata.hasGuard secretGuard with
    | true => exact released_keeping t _
    | false => rfl

/-! ## Before the write -/

/-- What comes before the guards are written: the token is read, its bindings are listed, and its record
is deleted, with some outcome, if it is guarded. -/
inductive Prepares (k : Key) (t : AccessToken) (outcome : Except VaultFailure Unit) (x : Exchange) :
    Prop where
  | read (reads : Reads k t x)
  | list {space : Option String} {wanted : Selector} {linked : List Binding}
      (lists : x.Tells (.bindings (.list space wanted)) (.ok linked))
  | clean {guards : List String} (guarded : t.metadata.hasGuard secretGuard = true)
      (deletes : x.Tells (.vault (.delete { t with metadata.guards := guards })) outcome)

variable {outcome : Except VaultFailure Unit} {x : Exchange}

theorem Prepares.silent (prepares : Prepares k t outcome x) : x.request.writesTokens = false := by
  cases prepares with
  | read reads => rw [Exchange.Tells.request reads]; rfl
  | list lists => rw [lists.request]; rfl
  | clean _ deletes => rw [deletes.request]; rfl

theorem Prepares.tokens (prepares : Prepares k t outcome x) : x.left.tokens = x.cluster.tokens := by
  cases prepares with
  | read reads => exact reads.stored.2
  | list lists => exact x.cluster.tokens_answer x.chance x.request (by simp [lists.request])
  | clean _ deletes => exact x.cluster.tokens_answer x.chance x.request (by simp [deletes.request])

theorem Prepares.bindings (prepares : Prepares k t outcome x) :
    x.left.bindings = x.cluster.bindings := by
  cases prepares with
  | read reads =>
    exact x.cluster.bindings_answer x.chance x.request (by simp [Exchange.Tells.request reads])
  | list lists => exact (Prod.mk.inj lists.bindings).2.symm
  | clean _ deletes => exact x.cluster.bindings_answer x.chance x.request (by simp [deletes.request])

/-- A record is deleted only if it is guarded, and none but the token's. -/
theorem Prepares.of_asks (prepares : Prepares k t outcome x) {owner : AccessToken}
    (asks : x.request = .vault (.delete owner)) : x.Tells (.vault (.delete owner)) outcome ∧
      t.metadata.hasGuard secretGuard = true ∧ ∃ guards, owner = { t with metadata.guards := guards } := by
  cases prepares with
  | read reads => cases (Exchange.Tells.request reads).symm.trans asks
  | list lists => cases lists.request.symm.trans asks
  | clean guarded deletes =>
    cases deletes.request.symm.trans asks
    exact ⟨deletes, guarded, _, rfl⟩

/-- All that comes before the write. -/
structure Prelude (k : Key) (t : AccessToken) (outcome : Except VaultFailure Unit)
    (early : List Exchange) : Prop where
  prepares : ∀ x ∈ early, Prepares k t outcome x
  cleans : t.metadata.hasGuard secretGuard = true →
    ∃ x ∈ early, ∃ owner, x.Tells (.vault (.delete owner)) outcome
  spares : t.metadata.hasGuard secretGuard = false → outcome = .ok ()

theorem prelude_of_yields {listed gone : List Exchange} {linked : List Binding} (reads : Reads k t x)
    (lists : (holders t).Yields listed (.ok linked))
    (cleans : (cleanup (unlinked t linked)).Yields gone (.ok outcome)) :
    Prelude k t outcome (x :: (listed ++ gone)) := by
  have listing : ∀ y ∈ listed, Prepares k t outcome y := by
    rcases yields_holders lists with ⟨_, y, rfl, tells⟩ | ⟨_, rfl, _⟩
    · simpa using Prepares.list tells
    · simp
  rcases yields_cleanup cleans with ⟨guarded, z, rfl, deletes⟩ | ⟨free, rfl, rfl⟩
  · rw [hasGuard_unlinked] at guarded
    rw [unlinked_eq] at deletes
    have cleaning : Prepares k t outcome z := .clean guarded deletes
    refine ⟨List.forall_mem_cons.mpr ⟨.read reads, forall_mem_snoc listing cleaning⟩, fun _ => ?_, ?_⟩
    · exact ⟨z, by simp, _, deletes⟩
    · simp [guarded]
  · rw [hasGuard_unlinked] at free
    refine ⟨List.forall_mem_cons.mpr ⟨.read reads, by simpa using listing⟩, ?_, fun _ => rfl⟩
    simp [free]

section rest

variable {early rest : List Exchange}

/-- What follows are writes of the guards. -/
def AreWrites (rest : List Exchange) : Prop := ∀ x ∈ rest, ∃ o, x.request = .tokens (.update o)

theorem Prelude.filter_writes (prelude : Prelude k t outcome early) (writes : AreWrites rest) :
    (early ++ rest).filter (·.request.writesTokens) = rest := by
  have none : early.filter (·.request.writesTokens) = [] :=
    List.filter_eq_nil_iff.mpr fun x here => by simp [(prelude.prepares x here).silent]
  have all : rest.filter (·.request.writesTokens) = rest := by
    refine List.filter_eq_self.mpr fun x here => ?_
    obtain ⟨o, asks⟩ := writes x here
    rw [asks]
    rfl
  rw [List.filter_append, none, all, List.nil_append]

theorem Prelude.bindings (prelude : Prelude k t outcome early) (writes : AreWrites rest) :
    ∀ x ∈ early ++ rest, x.left.bindings = x.cluster.bindings := by
  refine List.forall_mem_append.mpr ⟨fun x here => (prelude.prepares x here).bindings, fun x here => ?_⟩
  obtain ⟨o, asks⟩ := writes x here
  exact x.cluster.bindings_answer x.chance x.request (by simp [asks])

/-- Whatever comes after, a record is deleted only if it is guarded, and none but the token's. -/
theorem Prelude.of_asks (prelude : Prelude k t outcome early) (writes : AreWrites rest)
    (here : x ∈ early ++ rest) {owner : AccessToken} (asks : x.request = .vault (.delete owner)) :
    x.Tells (.vault (.delete owner)) outcome ∧ t.metadata.hasGuard secretGuard = true ∧
      ∃ guards, owner = { t with metadata.guards := guards } := by
  rcases List.mem_append.mp here with there | there
  · exact (prelude.prepares x there).of_asks asks
  · obtain ⟨o, other⟩ := writes x there
    cases other.symm.trans asks

theorem Prelude.of_deletes (prelude : Prelude k t outcome early) (writes : AreWrites rest)
    (here : x ∈ early ++ rest) {owner : AccessToken} {answer : Except VaultFailure Unit}
    (tells : x.Tells (.vault (.delete owner)) answer) :
    answer = outcome ∧ t.metadata.hasGuard secretGuard = true := by
  obtain ⟨deletes, guarded, _⟩ := prelude.of_asks writes here tells.request
  exact ⟨tells.answer_unique deletes, guarded⟩

/-- The guard of the record comes off if the record is gone. -/
theorem Prelude.cleans_iff (prelude : Prelude k t outcome early) (writes : AreWrites rest) :
    isCleared t outcome = true ↔
      ∃ x ∈ early ++ rest, ∃ owner, x.Tells (.vault (.delete owner)) (.ok ()) := by
  constructor
  · intro both
    obtain ⟨guarded, fine⟩ := (Bool.and_eq_true _ _).mp both
    obtain ⟨x, here, owner, tells⟩ := prelude.cleans guarded
    cases outcome with
    | error f => contradiction
    | ok u => exact ⟨x, List.mem_append_left _ here, owner, tells⟩
  · rintro ⟨x, here, owner, tells⟩
    obtain ⟨rfl, guarded⟩ := prelude.of_deletes writes here tells
    rw [isCleared, guarded]
    rfl

/-- Nothing went wrong with the record if no deletion of it has failed. -/
theorem Prelude.fine (prelude : Prelude k t outcome early)
    (clean : ∀ x ∈ early ++ rest, ∀ owner f, ¬ x.Tells (.vault (.delete owner)) (.error f)) :
    outcome = .ok () := by
  cases guarded : t.metadata.hasGuard secretGuard with
  | false => exact prelude.spares guarded
  | true =>
    obtain ⟨x, here, owner, tells⟩ := prelude.cleans guarded
    cases outcome with
    | error f => exact absurd tells (clean x (List.mem_append_left _ here) owner f)
    | ok u => rfl

end rest

/-- The bindings block a deletion if the token is guarded and one of them is linked to it. -/
theorem blocked_iff {listed : List Exchange} {linked : List Binding} {c : Cluster}
    (lists : (holders t).Yields listed (.ok linked)) (same : ∀ y ∈ listed, y.cluster.bindings = c.bindings) :
    isBlocked t linked = true ↔ t.metadata.hasGuard bindingsGuard = true ∧ IsLinked c t := by
  rcases yields_holders lists with ⟨held, y, rfl, tells⟩ | ⟨free, _, _⟩
  · have all : y.cluster.bindings.list (some t.key.space) (Selector.only linkLabel t.key.name) = linked :=
      Except.ok.inj (Prod.mk.inj tells.bindings).1
    rw [same y List.mem_cons_self] at all
    have found : linked ≠ [] ↔ IsLinked c t := by
      constructor
      · intro more
        obtain ⟨b, here⟩ := List.exists_mem_of_ne_nil _ more
        rw [← all] at here
        obtain ⟨⟨k, stored⟩, space, label⟩ := Store.mem_list.mp here
        exact ⟨k, b, stored, space _ rfl, selects_only.mp label⟩
      · rintro ⟨k, b, stored, space, label⟩
        have here : b ∈ linked := by
          rw [← all]
          refine Store.mem_list.mpr ⟨⟨k, stored⟩, ?_, selects_only.mpr label⟩
          rintro _ ⟨⟩
          exact space
        exact List.ne_nil_of_mem here
    simpa [isBlocked, held] using found
  · simp [isBlocked, free]

/-! ## The end -/

/-- What a pass comes to that lets a token go. -/
structure Finalized (d : TokenDesk) (k : Key) (t : AccessToken) (g : Ground) (blocked gone : Bool)
    (past : List Exchange) (result : Except Failure Action) : Prop where
  blocks : blocked = true ↔ t.metadata.hasGuard bindingsGuard = true ∧ IsLinked g.cluster t
  deletes : t.metadata.hasGuard secretGuard = true ↔
    ∃ x ∈ past, ∃ guards, x.request = .vault (.delete { t with metadata.guards := guards })
  spares : ∀ x ∈ past, ∀ owner, x.request = .vault (.delete owner) →
    ∃ guards, owner = { t with metadata.guards := guards }
  cleans : gone = true ↔ ∃ x ∈ past, ∃ owner, x.Tells (.vault (.delete owner)) (.ok ())
  writes : (past.filter (·.request.writesTokens)).map (·.request) =
    if keptGuards t blocked gone = t.metadata.guards then []
    else [.tokens (.update (keeping t blocked gone))]
  unwritten : (∀ x ∈ past, x.request.writesTokens = true → x.Fails) →
    (reached g past).tokens = g.cluster.tokens
  written : ∀ x ∈ past, x.request.writesTokens = true → ¬ x.Fails →
    (∀ j, j ≠ k → (reached g past).tokens.get? j = g.cluster.tokens.get? j) ∧
      if keptGuards t blocked gone = [] then (reached g past).tokens.get? k = none
      else ∃ version, (reached g past).tokens.get? k =
        some ((keeping t blocked gone).withVersion version)
  bindings : (reached g past).bindings = g.cluster.bindings
  refused : ∀ x ∈ past, ∀ o f, x.Tells (.tokens (.update o)) (.error f) → result = .error (.store f)
  uncleaned : (∀ x ∈ past, x.request.writesTokens = true → ¬ x.Fails) →
    ∀ x ∈ past, ∀ owner f, x.Tells (.vault (.delete owner)) (.error f) → result = .error (.vault f)
  done : (∀ x ∈ past, x.request.writesTokens = true → ¬ x.Fails) →
    (∀ x ∈ past, ∀ owner f, ¬ x.Tells (.vault (.delete owner)) (.error f)) →
    result = .ok (if blocked then .requeue d.recheck else .await)
  removed : (reached g past).tokens.get? k = none ↔
    keptGuards t blocked gone = [] ∧ ∃ x ∈ past, x.request.writesTokens = true ∧ ¬ x.Fails

variable {g : Ground} {comes : Nat → Between}

theorem result_of_ending {blocked : Bool} {result : Except Failure Action}
    (ends : (d.ending blocked outcome).Yields [] result) :
    (∀ f, outcome = .error f → result = .error (.vault f)) ∧
      (outcome = .ok () → result = .ok (if blocked then .requeue d.recheck else .await)) := by
  cases outcome with
  | error f =>
    refine ⟨?_, fun none => by contradiction⟩
    rintro _ ⟨⟩
    exact ends.2
  | ok u => exact ⟨fun f none => by contradiction, fun _ => ends.2⟩

/-- The write of the guards is made on top of the token that was read. -/
theorem written_of_release {blocked gone : Bool} {a : AccessToken}
    (stored : x.cluster.tokens.get? k = some t) (deleting : t.isDeleting = true)
    (writes : x.Tells (.tokens (.update (keeping t blocked gone))) (.ok a)) :
    (∀ j, j ≠ k → x.left.tokens.get? j = x.cluster.tokens.get? j) ∧
      if keptGuards t blocked gone = [] then x.left.tokens.get? k = none
      else ∃ version, x.left.tokens.get? k = some ((keeping t blocked gone).withVersion version) := by
  have key : t.key = k := x.sound.tokens.filed stored
  have filed : (keeping t blocked gone).key = k := key
  obtain ⟨_, ends⟩ := (x.sound.tokens.snapshot stored).update_cases (o := keeping t blocked gone) rfl rfl
    rfl writes.tokens
  rcases ends with ⟨_, bare, _, removed⟩ | ⟨held, _, written⟩
  · have bare : keptGuards t blocked gone = [] := bare
    rw [if_pos bare, removed, key]
    exact ⟨fun j other => Store.get?_remove_of_ne _ _ other, Store.get?_remove_self _ _ _⟩
  · have held : keptGuards t blocked gone ≠ [] := held deleting
    rw [if_neg held, written]
    refine ⟨fun j other => Store.get?_write_of_ne _ ?_, _, Store.get?_write_self _ filed⟩
    exact fun same => other (same.trans filed)

section released

variable {linked : List Binding} {rest : List Exchange} {result : Except Failure Action}

/-- The guards that stay are written if they are fewer than before. -/
theorem Released.requests (releases : d.Released t linked outcome rest result) :
    rest.map (·.request) =
      if keptGuards t (isBlocked t linked) (isCleared t outcome) = t.metadata.guards then []
      else [.tokens (.update (keeping t (isBlocked t linked) (isCleared t outcome)))] := by
  have next := cleaned_eq t linked outcome
  cases releases with
  | same kept _ =>
    rw [next] at kept
    exact (if_pos kept).symm
  | unwritten fewer fails =>
    rw [next] at fewer fails
    exact (congrArg ([·]) fails.request).trans (if_neg fewer).symm
  | written fewer writes _ =>
    rw [next] at fewer writes
    exact (congrArg ([·]) writes.request).trans (if_neg fewer).symm

/-- No more than one write is made. -/
theorem Released.only (releases : d.Released t linked outcome rest result) (here : x ∈ rest) :
    rest = [x] ∧
      x.request = .tokens (.update (keeping t (isBlocked t linked) (isCleared t outcome))) := by
  have asked : x.request ∈ rest.map (·.request) := List.mem_map_of_mem here
  have one : rest.length = (rest.map (·.request)).length := (List.length_map _).symm
  rw [releases.requests] at asked one
  split at asked
  · simp at asked
  · next fewer =>
    rw [if_neg fewer] at one
    obtain ⟨y, rfl⟩ := List.length_eq_one_iff.mp one
    exact ⟨by rw [List.mem_singleton.mp here], List.mem_singleton.mp asked⟩

theorem Released.areWrites (releases : d.Released t linked outcome rest result) : AreWrites rest :=
  fun _ here => ⟨_, (releases.only here).2⟩

/-- A write that fails is what the pass fails with. -/
theorem Released.refused (releases : d.Released t linked outcome rest result) (here : x ∈ rest)
    {o : AccessToken} {f : StoreFailure} (tells : x.Tells (.tokens (.update o)) (.error f)) :
    result = .error (.store f) := by
  cases releases with
  | same _ _ => simp at here
  | unwritten _ fails =>
    obtain rfl := List.mem_singleton.mp here
    cases fails.request.symm.trans tells.request
    rw [Except.error.inj (fails.answer_unique tells)]
  | written _ writes _ =>
    obtain rfl := List.mem_singleton.mp here
    cases writes.request.symm.trans tells.request
    cases writes.answer_unique tells

/-- If the write is made or not needed, the record and the bindings decide on the result. -/
theorem Released.ends (releases : d.Released t linked outcome rest result) (fine : ∀ x ∈ rest, ¬ x.Fails) :
    (d.ending (isBlocked t linked) outcome).Yields [] result := by
  cases releases with
  | same _ ends => exact ends
  | unwritten _ fails => exact absurd (fails.fails.mpr rfl) (fine _ List.mem_cons_self)
  | written _ _ ends => exact ends

end released

section written

variable {early rest : List Exchange} {linked : List Binding} {result : Except Failure Action}
  (apart : LeaveTokens comes) (parts : ((d.pass k).play comes 0 g).1 = early ++ rest)
  (prelude : Prelude k t outcome early) (releases : d.Released t linked outcome rest result)

include apart parts prelude

/-- What comes before the guards are written leaves the tokens as they were. -/
theorem Prelude.tokens_reached : (reached g early).tokens = g.cluster.tokens := by
  have split : ((d.pass k).play comes 0 g).1 = [] ++ early ++ rest := parts
  exact kept_of_apart (fun _ _ => rfl) apart.tokens_answer split fun x here =>
    (prelude.prepares x here).tokens

include releases

/-- The one write, if there is one, meets the tokens as they were, and is the last request. -/
theorem Released.met_and_left {x : Exchange} (here : x ∈ rest) :
    x.cluster.tokens = g.cluster.tokens ∧ (reached g (early ++ rest)).tokens = x.left.tokens := by
  have before := prelude.tokens_reached apart parts
  obtain ⟨rfl, _⟩ := releases.only here
  exact ⟨(tokens_met apart parts).trans before, by simp [reached]⟩

theorem Released.tokens_of_fails (all : ∀ x ∈ rest, x.Fails) :
    (reached g (early ++ rest)).tokens = g.cluster.tokens := by
  cases rest with
  | nil => rw [List.append_nil, prelude.tokens_reached apart parts]
  | cons x rest =>
    obtain ⟨met, left⟩ := releases.met_and_left apart parts prelude List.mem_cons_self
    rw [left, Exchange.left_of_fails (all x List.mem_cons_self), met]

/-- A write that does not fail leaves the token with the guards that are kept, or removes it if none is. -/
theorem Released.wrote_of_fine (stored : g.cluster.tokens.get? k = some t) (deleting : t.isDeleting = true)
    {x : Exchange} (here : x ∈ rest) (fine : ¬ x.Fails) :
    (∀ j, j ≠ k → (reached g (early ++ rest)).tokens.get? j = g.cluster.tokens.get? j) ∧
      if keptGuards t (isBlocked t linked) (isCleared t outcome) = [] then
        (reached g (early ++ rest)).tokens.get? k = none
      else ∃ version, (reached g (early ++ rest)).tokens.get? k =
        some ((keeping t (isBlocked t linked) (isCleared t outcome)).withVersion version) := by
  obtain ⟨met, left⟩ := releases.met_and_left apart parts prelude here
  rcases Exchange.tokens_cases (releases.only here).2 with failed | ⟨a, writes⟩
  · exact absurd failed fine
  · rw [left, ← met]
    exact written_of_release (met ▸ stored) deleting writes

/-- The token is gone exactly if no guard is kept and the write did not fail. -/
theorem Released.gone_iff (stored : g.cluster.tokens.get? k = some t) (deleting : t.isDeleting = true) :
    (reached g (early ++ rest)).tokens.get? k = none ↔
      keptGuards t (isBlocked t linked) (isCleared t outcome) = [] ∧ ∃ x ∈ rest, ¬ x.Fails := by
  by_cases all : ∀ x ∈ rest, x.Fails
  · rw [releases.tokens_of_fails apart parts prelude all, stored]
    simp only [reduceCtorEq, false_iff, not_and, not_exists, Classical.not_not]
    exact fun _ => all
  · obtain ⟨x, here, fine⟩ : ∃ x ∈ rest, ¬ x.Fails := by simpa using all
    have own := (releases.wrote_of_fine apart parts prelude stored deleting here fine).2
    split at own
    · next bare => exact ⟨fun _ => ⟨bare, x, here, fine⟩, fun _ => own⟩
    · next held =>
      obtain ⟨version, found⟩ := own
      rw [found]
      exact ⟨fun none => by contradiction, fun both => absurd both.1 held⟩

end written

/-- The end of a pass that lets a token go, from what came before the guards are written. -/
theorem finalized_of_released {early rest : List Exchange} {linked : List Binding}
    {result : Except Failure Action} (stored : g.cluster.tokens.get? k = some t)
    (deleting : t.isDeleting = true) (apart : LeaveTokens comes)
    (parts : ((d.pass k).play comes 0 g).1 = early ++ rest) (prelude : Prelude k t outcome early)
    (releases : d.Released t linked outcome rest result)
    (blocks : isBlocked t linked = true ↔ t.metadata.hasGuard bindingsGuard = true ∧ IsLinked g.cluster t)
    (bindings : (reached g (early ++ rest)).bindings = g.cluster.bindings) :
    d.Finalized k t g (isBlocked t linked) (isCleared t outcome) (early ++ rest) result := by
  have areWrites := releases.areWrites
  have among {x : Exchange} (here : x ∈ early ++ rest) (wrote : x.request.writesTokens = true) :
      x ∈ rest := by
    rw [← prelude.filter_writes areWrites]
    exact List.mem_filter.mpr ⟨here, wrote⟩
  have wrote {x : Exchange} (here : x ∈ rest) : x.request.writesTokens = true := by
    rw [(releases.only here).2]
    rfl
  have uncleaned {x : Exchange} (here : x ∈ early ++ rest) {owner : AccessToken} {f : VaultFailure}
      (tells : x.Tells (.vault (.delete owner)) (.error f)) : outcome = .error f :=
    (prelude.of_deletes areWrites here tells).1.symm
  have ends (fine : ∀ x ∈ early ++ rest, x.request.writesTokens = true → ¬ x.Fails) :=
    result_of_ending (releases.ends fun x here => fine x (List.mem_append_right _ here) (wrote here))
  exact {
    blocks := blocks
    deletes := by
      constructor
      · intro guarded
        obtain ⟨x, here, owner, tells⟩ := prelude.cleans guarded
        obtain ⟨_, _, guards, rfl⟩ := (prelude.prepares x here).of_asks tells.request
        exact ⟨x, List.mem_append_left _ here, guards, tells.request⟩
      · rintro ⟨x, here, guards, asks⟩
        exact (prelude.of_asks areWrites here asks).2.1
    spares := fun x here owner asks => (prelude.of_asks areWrites here asks).2.2
    cleans := prelude.cleans_iff areWrites
    writes := by rw [prelude.filter_writes areWrites, releases.requests]
    unwritten := fun all => releases.tokens_of_fails apart parts prelude fun x here =>
      all x (List.mem_append_right _ here) (wrote here)
    written := fun x here asks fine =>
      releases.wrote_of_fine apart parts prelude stored deleting (among here asks) fine
    bindings := bindings
    refused := fun x here o f tells => releases.refused (among here (by rw [tells.request]; rfl)) tells
    uncleaned := fun fine x here owner f tells => (ends fine).1 f (uncleaned here tells)
    done := fun fine clean => (ends fine).2 (prelude.fine clean)
    removed := by
      rw [releases.gone_iff apart parts prelude stored deleting]
      refine and_congr_right fun _ => ⟨?_, ?_⟩
      · rintro ⟨x, here, fine⟩
        exact ⟨x, List.mem_append_right _ here, wrote here, fine⟩
      · rintro ⟨x, here, asks, fine⟩
        exact ⟨x, among here asks, fine⟩ }

/-- A request of a pass meets the bindings as the one before has left them. -/
theorem bindings_met {late : List Exchange} (apart : LeaveBindings comes)
    (parts : ((d.pass k).play comes 0 g).1 = past ++ x :: late) :
    x.cluster.bindings = (reached g past).bindings :=
  met_of_apart (fun _ _ => rfl) apart.bindings_answer parts

/-- If the bindings of a token remain unknown, then they were listed and the listing has failed. -/
theorem refused_of_unlisted {listed : List Exchange} {f : Failure}
    (unlisted : (holders t).Yields listed (.error f)) :
    ∃ y refusal, listed = [y] ∧ f = .store refusal ∧
      y.Tells (.bindings (.list (some t.key.space) (Selector.only linkLabel t.key.name)))
        (.error refusal) := by
  unfold holders at unlisted
  split at unlisted
  · obtain ⟨y, refusal | linked, rfl, tells, same⟩ := yields_bindings_iff.mp unlisted
    · exact ⟨y, refusal, rfl, Except.error.inj same, tells⟩
    · contradiction
  · obtain ⟨_, none⟩ := yields_pure.mp unlisted
    contradiction

/-- A listing that fails is one that a pass has asked for. -/
theorem fails_of_unlisted {listed : List Exchange} {f : Failure}
    (unlisted : (holders t).Yields listed (.error f)) :
    ∃ y ∈ listed, ∃ space wanted, y.request = .bindings (.list space wanted) ∧ y.Fails := by
  obtain ⟨y, refusal, rfl, _, tells⟩ := refused_of_unlisted unlisted
  exact ⟨y, List.mem_cons_self, _, _, tells.request, tells.fails.mpr rfl⟩

/-- A pass over a token whose deletion is requested lets it go, if the token is read and its bindings
are listed. -/
theorem finalized_of_deleting (stored : g.cluster.tokens.get? k = some t)
    (deleting : t.isDeleting = true) (tokens : LeaveTokens comes) (bindings : LeaveBindings comes)
    (reads : ∀ x ∈ ((d.pass k).play comes 0 g).1, x.request = .tokens (.get k) → ¬ x.Fails)
    (lists : ∀ x ∈ ((d.pass k).play comes 0 g).1, ∀ space wanted,
      x.request = .bindings (.list space wanted) → ¬ x.Fails) :
    ∃ blocked gone, d.Finalized k t g blocked gone ((d.pass k).play comes 0 g).1
      ((d.pass k).play comes 0 g).2 := by
  have ended := d.ended_of_play k g comes
  generalize parts : ((d.pass k).play comes 0 g).1 = past at ended reads lists
  generalize ((d.pass k).play comes 0 g).2 = result at ended
  cases ended with
  | unread fails => exact absurd (fails.fails.mpr rfl) (reads _ List.mem_cons_self fails.request)
  | absent misses => exact absurd stored (not_stored_of_absent tokens parts misses)
  | unput read alive _ _ =>
    obtain ⟨rfl, _⟩ := read.first tokens parts stored
    rw [alive] at deleting
    contradiction
  | worked begins works =>
    obtain ⟨alive, x, rest, rfl, read⟩ := begins.front
    obtain ⟨rfl, _⟩ := read.first tokens parts stored
    rw [alive] at deleting
    contradiction
  | @letGo _ x _ _ read _ goes =>
    obtain ⟨rfl, _⟩ := read.first tokens parts stored
    cases goes with
    | unlisted fails =>
      obtain ⟨y, here, space, wanted, asks, failed⟩ := fails_of_unlisted fails
      exact absurd failed (lists y (List.mem_cons_of_mem _ here) space wanted asks)
    | @listed listed gone rest linked outcome _ found cleans releases =>
      have prelude := prelude_of_yields read found cleans
      have shape : x :: (listed ++ (gone ++ rest)) = x :: (listed ++ gone) ++ rest := by simp
      rw [shape] at parts ⊢
      have kept : (reached g (x :: (listed ++ gone) ++ rest)).bindings = g.cluster.bindings := by
        have split : ((d.pass k).play comes 0 g).1 = [] ++ (x :: (listed ++ gone) ++ rest) ++ [] := by
          rw [parts, List.nil_append, List.append_nil]
        exact kept_of_apart (fun _ _ => rfl) bindings.bindings_answer split
          (prelude.bindings releases.areWrites)
      refine ⟨_, _, finalized_of_released stored deleting tokens parts prelude releases ?_ kept⟩
      refine blocked_iff found fun y here => ?_
      rcases yields_holders found with ⟨_, z, rfl, _⟩ | ⟨_, rfl, _⟩
      · obtain rfl := List.mem_singleton.mp here
        have next : ((d.pass k).play comes 0 g).1 = [x] ++ y :: (gone ++ rest) := by simpa using parts
        have first : ((d.pass k).play comes 0 g).1 = [] ++ x :: (y :: (gone ++ rest)) := next
        rw [bindings_met bindings next]
        change x.left.bindings = _
        rw [(prelude.prepares x List.mem_cons_self).bindings, bindings_met bindings first]
        rfl
      · simp at here

/-- A token with both guards, one of them twice, and with somebody else's. -/
def leavingToken : AccessToken :=
  .fresh { Metadata.named "dev" "git" with
    guards := ["audit.example/kept", bindingsGuard, secretGuard, bindingsGuard] } "https://git.example" .none

/-- A cluster with that token, whose deletion is requested. -/
def leavingGround : Ground :=
  ((Ground.bare (.serial 5)).answer .quiet (.tokens (.create leavingToken))).answer .quiet
    (.tokens (.delete leavingToken.key))

/-- The vault is out of reach, and nobody else asks for anything. -/
def sealedVault (_ : Nat) : Between := ⟨[], 5, { Chance.quiet with outage := some (.backend "sealed") }⟩

/-- The pass over that token there. -/
def sealedPlay : List Exchange × Except Failure Action :=
  (linkingDesk.pass leavingToken.key).play sealedVault 0 leavingGround

/-- The guard for bindings comes off wherever it stands, and the one for the record stays. -/
theorem finalized_of_deleting_sealed : ∃ t left blocked gone,
    leavingGround.cluster.tokens.get? leavingToken.key = some t ∧
    (reached leavingGround sealedPlay.1).tokens.get? leavingToken.key = some left ∧
    left.metadata.guards = ["audit.example/kept", secretGuard] ∧
    sealedPlay.2 = .error (.vault (.backend "sealed")) ∧
    linkingDesk.Finalized leavingToken.key t leavingGround blocked gone sealedPlay.1 sealedPlay.2 := by
  have present : (leavingGround.cluster.tokens.get? leavingToken.key).isSome = true := by decide +kernel
  have deleting : ∀ t ∈ leavingGround.cluster.tokens.get? leavingToken.key, t.isDeleting = true := by
    decide +kernel
  have remains : ((reached leavingGround sealedPlay.1).tokens.get? leavingToken.key).isSome = true := by
    decide +kernel
  have guards : ∀ left ∈ (reached leavingGround sealedPlay.1).tokens.get? leavingToken.key,
      left.metadata.guards = ["audit.example/kept", secretGuard] := by
    decide +kernel
  have ends : sealedPlay.2 = .error (.vault (.backend "sealed")) := by decide +kernel
  have fails : ∀ x ∈ sealedPlay.1, x.Fails → x.request.consults = true := by decide +kernel
  have tokens : LeaveTokens sealedVault := by simp [LeaveTokens, sealedVault]
  have bindings : LeaveBindings sealedVault := by simp [LeaveBindings, sealedVault]
  obtain ⟨t, stored⟩ := Option.isSome_iff_exists.mp present
  obtain ⟨left, found⟩ := Option.isSome_iff_exists.mp remains
  obtain ⟨blocked, gone, finalized⟩ := finalized_of_deleting (d := linkingDesk) stored (deleting t stored)
    tokens bindings
    (fun x here asks failed => by simpa [asks, Request.consults] using fails x here failed)
    (fun x here _ _ asks failed => by simpa [asks, Request.consults] using fails x here failed)
  exact ⟨t, left, blocked, gone, stored, found, guards left found, ends, finalized⟩

end TokenDesk

end TokenSteward
