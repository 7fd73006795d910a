import TokenSteward.Proofs.Deletion.Discipline

/-! # How guards come off

If a token carried a guard when its deletion was requested, and nobody outside takes it off, then it
came off in one way: a pass found it to be without need while the token was stored with its deletion
requested, and later that same pass wrote the very same token without it. So whatever the pass saw
was true at a point of the run at which the token was already marked.
-/

namespace TokenSteward.Traffic

open TokenSteward.Cluster TokenSteward.Resource TokenSteward.Secret

variable {outset : Cluster.Outset}

/-- An answer to a pass shows that a guard of a token is without need: no binding is listed that is
linked to the token, or the vault deletes the token's record. -/
inductive Shows (t : AccessToken) (s : Traffic) (i : Nat) (x : Chance) : String → Prop where
  | unlinked {next : Request.Answer _ → Pass Action}
      (asks : s.passes[i]? = some (.ask
        (.bindings (.list (some t.key.space) (Selector.only linkLabel t.key.name))) next))
      (served : x.refusal = none)
      (none : s.cluster.bindings.list (some t.key.space) (Selector.only linkLabel t.key.name) = []) :
      Shows t s i x bindingsGuard
  | deleted {owner : AccessToken} {next : Request.Answer _ → Pass Action}
      (asks : s.passes[i]? = some (.ask (.vault (.delete owner)) next))
      (served : x.outage = none)
      (same : VaultKey.ofOwner owner = VaultKey.ofOwner t) : Shows t s i x secretGuard

/-- What a pass was told is true of the run: its copy was stored at some point, and later an answer
to the pass showed each guard without need that it takes for one. -/
def TrueOf (outset : Cluster.Outset) (moves : List Move) (i : Nat) (told : Told) : Prop :=
  ∀ t, told.token = some t → ∃ read since, moves = read ++ since ∧
    (run outset read).cluster.tokens.get? t.key = some t ∧
    ∀ guard ∈ told.needless, ∃ before x after, since = before ++ .answered i x :: after ∧
      Shows t (run outset (read ++ before)) i x guard

theorem trueOf_snoc {moves : List Move} {i : Nat} {told : Told} (holds : TrueOf outset moves i told)
    (m : Move) : TrueOf outset (moves ++ [m]) i told := by
  intro t token
  obtain ⟨read, since, rfl, stored, shown⟩ := holds t token
  refine ⟨read, since ++ [m], by simp, stored, ?_⟩
  intro guard needless
  obtain ⟨before, x, after, rfl, shows⟩ := shown guard needless
  exact ⟨before, x, after ++ [m], by simp, shows⟩

/-- A pass that reads a token knows one that is stored. -/
theorem trueOf_read {moves : List Move} {i : Nat} {k : Key} {t : AccessToken}
    (stored : (run outset moves).cluster.tokens.get? k = some t) :
    TrueOf outset moves i (.read t) := by
  intro t' same
  obtain rfl := Option.some.inj same
  refine ⟨moves, [], by simp, ?_, fun guard needless => by simp [Told.read] at needless⟩
  rwa [(sound_run outset moves).tokens.filed stored]

/-- A guard that an answer shows to be without need is one of those that the pass knows then. -/
theorem trueOf_finds {moves : List Move} {i : Nat} {x : Chance} {told : Told} {guard : String}
    {holds : AccessToken → Bool} (known : TrueOf outset moves i told)
    (shows : ∀ t, told.token = some t → holds t = true → Shows t (run outset moves) i x guard) :
    TrueOf outset (moves ++ [.answered i x]) i (told.finds guard holds) := by
  unfold Told.finds
  split
  · next found =>
    intro t token
    obtain ⟨read, since, rfl, stored, shown⟩ := known t token
    have now : Shows t (run outset (read ++ since)) i x guard := by
      apply shows t token
      rw [show told.token = some t from token] at found
      simpa using found
    refine ⟨read, since ++ [.answered i x], by simp, stored, ?_⟩
    intro other needless
    rcases List.mem_cons.mp needless with rfl | earlier
    · exact ⟨since, x, [], by simp, now⟩
    · obtain ⟨before, y, after, rfl, earlier⟩ := shown other earlier
      exact ⟨before, y, after ++ [.answered i x], by simp, earlier⟩
  · exact trueOf_snoc known _

/-- A pass that writes a token takes what it has written for its copy, unless that is to be deleted. -/
theorem trueOf_update {moves : List Move} {i : Nat} {x : Chance} {o : AccessToken}
    {next : Request.Answer (.tokens (.update o)) → Pass Action} {told : Told}
    (asks : (run outset moves).passes[i]? = some (.ask (.tokens (.update o)) next))
    (known : TrueOf outset moves i told) (served : x.refusal = none) :
    TrueOf outset (moves ++ [.answered i x]) i
      (told.hear (.tokens (.update o)) ((run outset moves).cluster.tokens.update o).1) := by
  have goesOn := trueOf_snoc known (.answered i x)
  rcases Store.update_cases (run outset moves).cluster.tokens o with
    ⟨f, failed⟩ | ⟨stored, _, _, ⟨deleting, _, gone⟩ | ⟨_, written⟩⟩
  · rw [failed]
    exact goesOn
  · rw [gone]
    simp only [Told.hear]
    rw [if_pos (show (Store.blended stored o).isDeleting = true from deleting)]
    exact goesOn
  · rw [written]
    simp only [Told.hear]
    split
    · exact goesOn
    · have now : (run outset (moves ++ [.answered i x])).cluster.tokens.get? o.key =
          some ((Store.blended stored o).withVersion
            ((run outset moves).cluster.tokens.version + 1)) := by
        simp only [run_snoc, after, asks, Cluster.answer, served, Store.perform, written]
        exact Store.get?_write_self _ rfl
      exact trueOf_read now

/-- A pass that finds no linked binding takes the guard for bindings to be without need. -/
theorem trueOf_list {moves : List Move} {i : Nat} {x : Chance} {space : Option String}
    {wanted : Selector} {next : Request.Answer (.bindings (.list space wanted)) → Pass Action}
    {told : Told} (asks : (run outset moves).passes[i]? = some (.ask (.bindings (.list space wanted)) next))
    (known : TrueOf outset moves i told) (served : x.refusal = none) :
    TrueOf outset (moves ++ [.answered i x]) i
      (told.hear (.bindings (.list space wanted))
        (.ok ((run outset moves).cluster.bindings.list space wanted))) := by
  cases listed : (run outset moves).cluster.bindings.list space wanted with
  | cons b more => exact trueOf_snoc known _
  | nil =>
    apply trueOf_finds known
    intro t token lists
    simp only [Told.listsLinked, Bool.and_eq_true, decide_eq_true_eq] at lists
    obtain ⟨rfl, rfl⟩ := lists
    exact .unlinked asks served listed

/-- What a pass is told by an answer is true of the run. -/
theorem trueOf_hear {moves : List Move} {i : Nat} {x : Chance} {r : Request}
    {next : r.Answer → Pass Action} {told : Told}
    (asks : (run outset moves).passes[i]? = some (.ask r next)) (known : TrueOf outset moves i told) :
    TrueOf outset (moves ++ [.answered i x]) i
      (told.hear r ((run outset moves).cluster.answer x r).1) := by
  have goesOn := trueOf_snoc known (.answered i x)
  cases r with
  | tokens r =>
    simp only [Cluster.answer]
    split
    · cases r <;> exact goesOn
    · next served =>
      cases r with
      | get k =>
        simp only [Store.perform]
        cases found : (run outset moves).cluster.tokens.get? k with
        | none => exact goesOn
        | some t => exact trueOf_snoc (trueOf_read found) _
      | update o => exact trueOf_update asks known served
      | list _ _ | create _ | updateStatus _ | delete _ => exact goesOn
  | bindings r =>
    simp only [Cluster.answer]
    split
    · cases r <;> exact goesOn
    · next served =>
      cases r with
      | list space wanted => exact trueOf_list asks known served
      | get _ | create _ | update _ | updateStatus _ | delete _ => exact goesOn
  | vault r =>
    simp only [Cluster.answer]
    split
    · cases r <;> exact goesOn
    · next served =>
      cases r with
      | delete owner =>
        apply trueOf_finds known
        intro t token same
        exact .deleted asks served (of_decide_eq_true same)
      | get _ | store _ _ => exact goesOn
  | _ => exact goesOn

/-- Every pass of a run obeys the discipline of letting go, and what it was told is true. -/
theorem obeys_letGo (outset : Cluster.Outset) (moves : List Move) {i : Nat} {p : Pass Action}
    (under : (run outset moves).passes[i]? = some p) :
    ∃ told, TrueOf outset moves i told ∧ p.Obeys letGo (fun _ _ => True) told := by
  refine guided letGo (TrueOf outset) (fun moves e => ⟨.nothing, fun t token => ?_, e.obeys_letGo⟩)
    (fun moves m i told known => trueOf_snoc known m)
    (fun moves x i r next told asks known _ => ⟨_, rfl, trueOf_hear asks known⟩) moves under
  contradiction

/-! ## Lifted guards -/

/-- How a guard came off a token in a run: an answer to a pass showed it to be without need, and a
later answer to that pass took it off. -/
structure Lifting (outset : Cluster.Outset) (guard : String) (k : Key) (owner : VaultKey)
    (moves : List Move) where
  pass : Nat
  token : AccessToken
  shown : Chance
  taken : Chance
  before : List Move
  between : List Move
  after : List Move
  split : moves = before ++ .answered pass shown :: (between ++ .answered pass taken :: after)
  key : token.key = k
  owned : VaultKey.ofOwner token = owner
  deleting : token.isDeleting = true
  guarded : token.metadata.hasGuard guard = true
  stored : (run outset before).cluster.tokens.get? k = some token
  shows : Shows token (run outset before) pass shown guard
  unchanged : (run outset (before ++ .answered pass shown :: between)).cluster.tokens.get? k = some token
  lifted : ∀ t, (run outset (before ++ .answered pass shown ::
      (between ++ [.answered pass taken]))).cluster.tokens.get? k = some t →
    t.metadata.hasGuard guard = false

/-- The moves since the guard was shown to be without need. -/
def Lifting.since {guard : String} {k : Key} {owner : VaultKey} {moves : List Move}
    (l : Lifting outset guard k owner moves) : List Move :=
  l.between ++ .answered l.pass l.taken :: l.after

/-- A lifted guard has been lifted ever since. -/
def Lifting.snoc {guard : String} {k : Key} {owner : VaultKey} {moves : List Move}
    (l : Lifting outset guard k owner moves) (m : Move) : Lifting outset guard k owner (moves ++ [m]) :=
  { l with
    after := l.after ++ [m]
    split := by simpa using congrArg (· ++ [m]) l.split }

/-- The guard is there whenever the deletion of the token is requested. -/
def Carries (guard : String) (k : Key) (owner : VaultKey) (s : Traffic) (m : Move) : Prop :=
  m.deletion? = some k → ∀ t ∈ s.cluster.tokens.get? k,
    VaultKey.ofOwner t = owner → t.isDeleting = false → t.metadata.hasGuard guard = true

/-- Nobody outside takes the guard off the token once its deletion was requested. -/
def Leaves (guard : String) (k : Key) (owner : VaultKey) (s : Traffic) (m : Move) : Prop :=
  ∀ o ∈ m.edit?, o.key = k → ∀ t ∈ s.cluster.tokens.get? k,
    VaultKey.ofOwner t = owner → t.isDeleting = true → t.metadata.hasGuard guard = true →
      o.metadata.hasGuard guard = true

instance (guard : String) (k : Key) (owner : VaultKey) (s : Traffic) (m : Move) :
    Decidable (Carries guard k owner s m) :=
  inferInstanceAs (Decidable (_ → ∀ t ∈ _, _ → _ → _))

instance (guard : String) (k : Key) (owner : VaultKey) (s : Traffic) (m : Move) :
    Decidable (Leaves guard k owner s m) :=
  inferInstanceAs (Decidable (∀ o ∈ _, _ → ∀ t ∈ _, _ → _ → _ → _))

/-- A pass that takes a guard off a token has been shown that it is without need. -/
theorem lifting_of_update {moves : List Move} {i : Nat} {x : Chance} {guard : String} {k : Key}
    {o t : AccessToken} {next : Request.Answer _ → Pass Action}
    (asks : (run outset moves).passes[i]? = some (.ask (.tokens (.update o)) next))
    (key : o.key = k) (stored : (run outset moves).cluster.tokens.get? k = some t)
    (standing : Store.StandsOn o t) (deleting : t.isDeleting = true)
    (guarded : t.metadata.hasGuard guard = true) (bare : o.metadata.hasGuard guard = false)
    (off : ∀ t', (run outset (moves ++ [.answered i x])).cluster.tokens.get? k = some t' →
      t'.metadata.hasGuard guard = false) :
    Nonempty (Lifting outset guard k (VaultKey.ofOwner t) (moves ++ [.answered i x])) := by
  obtain ⟨told, known, allows, _⟩ := obeys_letGo outset moves asks
  obtain ⟨copy, token, releases⟩ := allows
  obtain ⟨read, since, rfl, first, shown⟩ := known copy token
  have same : t = copy := by
    have snapshot := snapshot_run first since
    exact snapshot.eq_of_standsOn releases.key releases.version (key ▸ stored) standing
  subst same
  rcases releases.kept guard guarded with kept | ⟨_, needless⟩
  · rw [bare] at kept
    contradiction
  · obtain ⟨before, y, after, rfl, shows⟩ := shown guard needless
    have filed : t.key = k := releases.key.symm.trans key
    subst filed
    have last : (run outset (read ++ before ++ .answered i y :: after)).cluster.tokens.get? t.key =
        some t := by simpa using stored
    exact ⟨{
      pass := i
      token := t
      shown := y
      taken := x
      before := read ++ before
      between := after
      after := []
      split := by simp
      key := rfl
      owned := rfl
      deleting := deleting
      guarded := guarded
      stored := stored_between first last
      shows := shows
      unchanged := by simpa using last
      lifted := by simpa using off }⟩

private theorem ofOwner_eq_of_key {a b : AccessToken} (key : a.key = b.key)
    (uid : a.metadata.uid = b.metadata.uid) :
    VaultKey.ofOwner a = VaultKey.ofOwner b := by
  simp only [Object.key, Metadata.key, Key.mk.injEq] at key
  simp only [VaultKey.ofOwner, key.1, key.2, uid]

/-- What the tokens of a run are after a move: as before, or as a request left them that did not
fail. -/
theorem tokens_after_cases (moves : List Move) (m : Move) :
    (run outset (moves ++ [m])).cluster.tokens = (run outset moves).cluster.tokens ∨
      ∃ x r, (run outset moves).Serves m x (.tokens r) ∧ (run outset (moves ++ [m])).cluster.tokens =
        ((run outset moves).cluster.tokens.perform (run outset moves).cluster.now r).2 := by
  rw [run_snoc]
  rcases (run outset moves).after_cases m with ⟨clock, same⟩ | ⟨x, r, serves, served⟩
  · rw [same]
    exact .inl rfl
  · rw [served]
    cases r with
    | tokens r =>
      simp only [Cluster.answer]
      split
      · exact .inl rfl
      · exact .inr ⟨x, r, serves, rfl⟩
    | bindings r => simp only [Cluster.answer]; split <;> exact .inl rfl
    | updates r => simp only [Cluster.answer]; split <;> exact .inl rfl
    | vault r => simp only [Cluster.answer]; split <;> exact .inl rfl
    | _ => exact .inl rfl

variable {guard : String} {k : Key} {owner : VaultKey} {moves : List Move} {m : Move}

/-- One move keeps the guard on a token whose deletion was requested, or a pass has lifted it. -/
theorem lifting_of_write {o t : AccessToken} {x : Chance}
    (left : (run outset moves).Leaves guard k owner m)
    (serves : (run outset moves).Serves m x (.tokens (.update o))) (key : o.key = k)
    (stored : (run outset moves).cluster.tokens.get? k = some t)
    (owned : VaultKey.ofOwner t = owner) (standing : Store.StandsOn o t)
    (deleting : t.isDeleting = true) (guarded : t.metadata.hasGuard guard = true)
    (off : ∀ t', (run outset (moves ++ [m])).cluster.tokens.get? k = some t' →
      t'.metadata.guards = o.metadata.guards) :
    o.metadata.hasGuard guard = true ∨ Nonempty (Lifting outset guard k owner (moves ++ [m])) := by
  cases kept : o.metadata.hasGuard guard with
  | true => exact .inl rfl
  | false =>
    refine .inr ?_
    cases serves with
    | answered asks =>
      rw [← owned]
      apply lifting_of_update asks key stored standing deleting guarded kept
      intro t' later
      rw [← kept]
      simp only [Metadata.hasGuard, off t' later]
    | outside =>
      have present := left o rfl key t stored owned deleting guarded
      rw [kept] at present
      contradiction

/-- A token whose deletion was requested carries the guard, or a pass has lifted it. -/
theorem guarded_or_lifted (carried : Always outset (Carries guard k owner) moves)
    (left : Always outset (Leaves guard k owner) moves) {t : AccessToken}
    (stored : (run outset moves).cluster.tokens.get? k = some t)
    (owned : VaultKey.ofOwner t = owner) (deleting : t.isDeleting = true) :
    t.metadata.hasGuard guard = true ∨ Nonempty (Lifting outset guard k owner moves) := by
  induction moves using List.reverseRecOn generalizing t with
  | nil => simp [run, Cluster.empty, Store.get?_empty] at stored
  | append_singleton moves m ih =>
    obtain ⟨carried, now⟩ := always_snoc.mp carried
    obtain ⟨left, still⟩ := always_snoc.mp left
    have before {t : AccessToken} (stored : (run outset moves).cluster.tokens.get? k = some t)
        (owned : VaultKey.ofOwner t = owner) (deleting : t.isDeleting = true) :
        t.metadata.hasGuard guard = true ∨ Nonempty (Lifting outset guard k owner (moves ++ [m])) := by
      rcases ih carried left stored owned deleting with guarded | ⟨⟨l⟩⟩
      · exact .inl guarded
      · exact .inr ⟨l.snoc m⟩
    rcases tokens_after_cases moves m with same | ⟨x, r, serves, done⟩
    · rw [same] at stored
      exact before stored owned deleting
    · have fate := (sound_run outset moves).tokens.fate (run outset moves).cluster.now k r
      rw [← done, stored] at fate
      generalize result : some t = found at fate
      cases fate with
      | same r => exact before result.symm owned deleting
      | created o name absent =>
        obtain rfl := Option.some.inj result
        contradiction
      | updated o old key found standing held =>
        obtain rfl := Option.some.inj result
        have filed := (sound_run outset moves).tokens.filed found
        have sameOwner : VaultKey.ofOwner old = owner := by
          rw [← owned]
          have same : old.key = o.key := filed.trans key.symm
          exact ofOwner_eq_of_key same rfl
        rcases before found sameOwner deleting with guarded | lifted
        · have outcome := lifting_of_write still serves key found sameOwner standing deleting guarded
            fun t' later => by
              rw [stored] at later
              obtain rfl := Option.some.inj later
              rfl
          exact outcome
        · exact .inr lifted
      | ended o old key found standing gone bare => contradiction
      | restated o old key found standing differs =>
        obtain rfl := Option.some.inj result
        have kept := @before old found owned deleting
        exact kept
      | dropped old found bare => contradiction
      | marked old found guarded alive =>
        obtain rfl := Option.some.inj result
        cases serves with
        | answered asks =>
          obtain ⟨told, _, allows, _⟩ := obeys_letGo outset moves asks
          contradiction
        | outside => exact .inl (now rfl old found owned alive)

/-- A guarded token whose deletion was requested is removed only after a pass has lifted the
guard. -/
theorem lifting_of_removed (carried : Always outset (Carries guard k owner) (moves ++ [m]))
    (left : Always outset (Leaves guard k owner) (moves ++ [m])) {t : AccessToken}
    (stored : (run outset moves).cluster.tokens.get? k = some t)
    (owned : VaultKey.ofOwner t = owner)
    (removed : (run outset (moves ++ [m])).cluster.tokens.get? k = none) :
    Nonempty (Lifting outset guard k owner (moves ++ [m])) := by
  obtain ⟨carried, now⟩ := always_snoc.mp carried
  obtain ⟨left, still⟩ := always_snoc.mp left
  rcases tokens_after_cases moves m with same | ⟨x, r, serves, done⟩
  · rw [same, stored] at removed
    contradiction
  · have fate := (sound_run outset moves).tokens.fate (run outset moves).cluster.now k r
    rw [← done, removed] at fate
    generalize result : (none : Option AccessToken) = found at fate
    cases fate with
    | same r =>
      rw [stored] at result
      contradiction
    | created o name absent => contradiction
    | updated o old key found standing held => contradiction
    | restated o old key found standing differs => contradiction
    | marked old found guarded alive => contradiction
    | ended o old key found standing deleting bare =>
      rw [stored] at found
      obtain rfl := Option.some.inj found
      rcases guarded_or_lifted carried left stored owned deleting with guarded | ⟨⟨l⟩⟩
      · have outcome := lifting_of_write still serves key stored owned standing deleting guarded
          fun t' later => by rw [removed] at later; contradiction
        apply outcome.resolve_left
        intro kept
        simp [Metadata.hasGuard, bare] at kept
      · exact ⟨l.snoc m⟩
    | dropped old found bare =>
      rw [stored] at found
      obtain rfl := Option.some.inj found
      cases alive : t.isDeleting with
      | true => exact absurd bare ((sound_run outset moves).tokens.guarded stored alive)
      | false =>
        cases serves with
        | answered asks =>
          obtain ⟨told, _, allows, _⟩ := obeys_letGo outset moves asks
          contradiction
        | outside =>
          have guarded := now rfl t stored owned alive
          simp [Metadata.hasGuard, bare] at guarded

end TokenSteward.Traffic
