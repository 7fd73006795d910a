import TokenSteward.Proofs.Pass.Guards
import TokenSteward.Proofs.Pass.Requests
import TokenSteward.Proofs.Pass.Steps

/-! # The steps of a pass over a token

A pass reads the token first. If its deletion is requested, the bindings that hold it are listed, its
record is deleted, and the guards that are not needed any more come off in one write. If not, both
guards are put on a token that has neither, the status is worked out from the copy that is stored
then, and written last. Each write is made from a copy of the token, so it is carried out only on top
of that very copy.
-/

namespace TokenSteward.TokenDesk

open TokenSteward.Cluster TokenSteward.Resource TokenSteward.Secret Pass

/-- An exchange has read a token at a key. -/
def Reads (k : Key) (t : AccessToken) (x : Exchange) : Prop := x.Tells (.tokens (.get k)) (.ok (some t))

/-- The copy of a token that its status is worked out from: as it was read, or as it was stored when
it had got both guards. -/
inductive Begun (k : Key) (t : AccessToken) : AccessToken → List Exchange → Prop where
  | read {x : Exchange} (reads : Reads k t x) (alive : t.isDeleting = false)
      (guarded : isUnguarded t = false) : Begun k t t [x]
  | put {x y : Exchange} {w : AccessToken} (reads : Reads k t x) (alive : t.isDeleting = false)
      (bare : isUnguarded t = true) (puts : y.Tells (.tokens (.update (guarded t))) (.ok w)) :
      Begun k t w [x, y]

/-- A token that is worked on was read first, and its deletion is not requested. -/
theorem Begun.front {t w : AccessToken} {begun : List Exchange} (begins : Begun k t w begun) :
    t.isDeleting = false ∧ ∃ x rest, begun = x :: rest ∧ Reads k t x := by
  cases begins with
  | read reads alive _ => exact ⟨alive, _, [], rfl, reads⟩
  | put reads alive _ _ => exact ⟨alive, _, [_], rfl, reads⟩

/-- The steps of a pass over a token. -/
inductive Step (d : TokenDesk) (k : Key) : List Exchange → Request → Prop where
  | read : Step d k [] (.tokens (.get k))
  | put {t : AccessToken} {x : Exchange} (reads : Reads k t x) (alive : t.isDeleting = false)
      (bare : isUnguarded t = true) : Step d k [x] (.tokens (.update (guarded t)))
  | look {t w : AccessToken} {begun looked : List Exchange} {r : Request} (begins : Begun k t w begun)
      (reaches : (d.desiredStatus w).Reaches looked r) : Step d k (begun ++ looked) r
  | status {t w : AccessToken} {begun looked : List Exchange} {s : TokenStatus}
      (begins : Begun k t w begun) (yields : (d.desiredStatus w).Yields looked (.ok s))
      (differs : s ≠ w.status) :
      Step d k (begun ++ looked) (.tokens (.updateStatus { w with status := s }))
  | list {t : AccessToken} {x : Exchange} {r : Request} (reads : Reads k t x)
      (deleting : t.isDeleting = true) (reaches : (holders t).Reaches [] r) : Step d k [x] r
  | clean {t : AccessToken} {x : Exchange} {linked : List Binding} {listed : List Exchange} {r : Request}
      (reads : Reads k t x) (deleting : t.isDeleting = true)
      (lists : (holders t).Yields listed (.ok linked))
      (reaches : (cleanup (unlinked t linked)).Reaches [] r) : Step d k (x :: listed) r
  | release {t : AccessToken} {x : Exchange} {linked : List Binding}
      {outcome : Except VaultFailure Unit} {listed gone : List Exchange} (reads : Reads k t x)
      (deleting : t.isDeleting = true) (lists : (holders t).Yields listed (.ok linked))
      (cleans : (cleanup (unlinked t linked)).Yields gone (.ok outcome)) :
      Step d k (x :: (listed ++ gone)) (.tokens (.update (cleaned (unlinked t linked) outcome)))

variable {d : TokenDesk} {k : Key} {t w : AccessToken} {past : List Exchange} {r : Request}

/-- Letting a token go takes the last three steps. -/
private theorem step_of_finalize {x : Exchange} (reads : Reads k t x) (deleting : t.isDeleting = true)
    (reaches : (d.finalize t).Reaches past r) : d.Step k (x :: past) r := by
  rw [finalize_eq, reaches_bind] at reaches
  rcases reaches with here | ⟨listed, rest, linked, rfl, lists, there⟩
  · have first : past = [] := by
      unfold holders at here
      split at here
      · exact (reaches_bindings.mp here).1
      · exact absurd here reaches_pure
    subst first
    exact .list reads deleting here
  · rw [reaches_bind] at there
    rcases there with here | ⟨gone, rest, outcome, rfl, cleans, there⟩
    · have next : rest = [] := by
        unfold cleanup at here
        split at here
        · exact (reaches_attempt.mp here).1
        · exact absurd here reaches_pure
      subst next
      rw [List.append_nil]
      exact .clean reads deleting lists here
    · rw [reaches_bind] at there
      rcases there with here | ⟨_, _, _, rfl, _, there⟩
      · unfold writeGuards at here
        split at here
        · rw [reaches_bind] at here
          rcases here with here | ⟨_, _, _, _, _, none⟩
          · obtain ⟨rfl, rfl⟩ := reaches_tokens.mp here
            rw [List.append_nil]
            exact .release reads deleting lists cleans
          · exact absurd none reaches_pure
        · exact absurd here reaches_pure
      · unfold ending at there
        split at there
        · exact absurd there reaches_fail
        · exact absurd there reaches_pure

/-- The work on a status takes the steps in the middle. -/
private theorem step_of_work {begun : List Exchange} (begins : Begun k t w begun)
    (reaches : (d.work w).Reaches past r) : d.Step k (begun ++ past) r := by
  unfold work at reaches
  rw [reaches_bind] at reaches
  rcases reaches with here | ⟨looked, rest, status, rfl, yields, there⟩
  · exact .look begins here
  · split at there
    · next differs =>
      rw [reaches_bind] at there
      rcases there with here | ⟨_, _, _, _, _, none⟩
      · obtain ⟨rfl, rfl⟩ := reaches_tokens.mp here
        rw [List.append_nil]
        exact .status begins yields differs
      · exact absurd none reaches_pure
    · exact absurd there reaches_pure

/-- A pass over a token takes no other steps. -/
theorem step_of_reaches (reaches : (d.pass k).Reaches past r) : d.Step k past r := by
  rw [pass_eq, reaches_bind] at reaches
  rcases reaches with here | ⟨first, rest, found, rfl, read, there⟩
  · obtain ⟨rfl, rfl⟩ := reaches_tokens.mp here
    exact .read
  · obtain ⟨x, rfl, reads⟩ := yields_tokens.mp read
    cases found with
    | none => exact absurd there reaches_pure
    | some t =>
      dsimp only at there
      split at there
      · next deleting => exact step_of_finalize reads deleting there
      · next notDeleting =>
        have alive : t.isDeleting = false := by simpa using notDeleting
        split at there
        · next bare =>
          rw [reaches_bind] at there
          rcases there with here | ⟨second, rest, w, rfl, put, there⟩
          · obtain ⟨rfl, rfl⟩ := reaches_tokens.mp here
            exact .put reads alive bare
          · obtain ⟨y, rfl, puts⟩ := yields_tokens.mp put
            change d.Step k ([x, y] ++ rest) r
            exact step_of_work (.put reads alive bare puts) there
        · next guarded => exact step_of_work (.read reads alive (by simpa using guarded)) there

/-! ## What went before -/

theorem yields_holders {linked : List Binding} (lists : (holders t).Yields past (.ok linked)) :
    (t.metadata.hasGuard bindingsGuard = true ∧ ∃ y, past = [y] ∧ y.Tells
        (.bindings (.list (some t.key.space) (Selector.only linkLabel t.key.name))) (.ok linked)) ∨
      (t.metadata.hasGuard bindingsGuard = false ∧ past = [] ∧ linked = []) := by
  unfold holders at lists
  split at lists
  · next held => exact .inl ⟨held, yields_bindings.mp lists⟩
  · next free =>
    obtain ⟨rfl, same⟩ := yields_pure.mp lists
    exact .inr ⟨by simpa using free, rfl, Except.ok.inj same⟩

theorem yields_cleanup {outcome : Except VaultFailure Unit}
    (cleans : (cleanup t).Yields past (.ok outcome)) :
    (t.metadata.hasGuard secretGuard = true ∧ ∃ y, past = [y] ∧
        y.Tells (.vault (.delete t)) outcome) ∨
      (t.metadata.hasGuard secretGuard = false ∧ past = [] ∧ outcome = .ok ()) := by
  unfold cleanup at cleans
  split at cleans
  · next kept =>
    obtain ⟨y, answer, rfl, deletes, same⟩ := yields_attempt.mp cleans
    exact .inl ⟨kept, y, rfl, Except.ok.inj same ▸ deletes⟩
  · next free =>
    obtain ⟨rfl, same⟩ := yields_pure.mp cleans
    exact .inr ⟨by simpa using free, rfl, Except.ok.inj same⟩

/-- The exchanges after which a pass over a token may ask for more. -/
inductive Early (k : Key) (x : Exchange) : Prop where
  | read {t : AccessToken} (reads : Reads k t x)
  | put {t w : AccessToken} (alive : t.isDeleting = false)
      (puts : x.Tells (.tokens (.update (guarded t))) (.ok w))
  | other (other : ∀ q, x.request ≠ .tokens q)

theorem Begun.early {begun : List Exchange} (begins : Begun k t w begun) : ∀ x ∈ begun, Early k x := by
  cases begins with
  | read reads _ _ => simpa using Early.read reads
  | put reads alive _ puts => simpa using ⟨Early.read reads, Early.put alive puts⟩

/-- All exchanges before a step of a pass are among them. -/
theorem Step.early (step : d.Step k past r) : ∀ x ∈ past, Early k x := by
  have listed {t : AccessToken} {linked : List Binding} {past : List Exchange}
      (lists : (holders t).Yields past (.ok linked)) : ∀ x ∈ past, Early k x := by
    rcases yields_holders lists with ⟨_, y, rfl, tells⟩ | ⟨_, rfl, _⟩
    · simpa using Early.other (by simp [tells.request])
    · simp
  cases step with
  | read => simp
  | put reads _ _ => simpa using Early.read reads
  | look begins reaches =>
    have asked := ((d.asks_desiredStatus _).reaches reaches).1
    exact List.forall_mem_append.mpr ⟨begins.early, fun x here => .other (asked x here).ne_tokens⟩
  | status begins yields _ =>
    have asked := (d.asks_desiredStatus _).yields yields
    exact List.forall_mem_append.mpr ⟨begins.early, fun x here => .other (asked x here).ne_tokens⟩
  | list reads _ _ => simpa using Early.read reads
  | clean reads _ lists _ => exact List.forall_mem_cons.mpr ⟨.read reads, listed lists⟩
  | release reads _ lists cleans =>
    refine List.forall_mem_cons.mpr ⟨.read reads, List.forall_mem_append.mpr ⟨listed lists, ?_⟩⟩
    rcases yields_cleanup cleans with ⟨_, y, rfl, tells⟩ | ⟨_, rfl, _⟩
    · simpa using Early.other (by simp [tells.request])
    · simp

/-- A write that takes guards off is not among them. -/
theorem not_early_of_release {linked : List Binding} {outcome : Except VaultFailure Unit}
    {x : Exchange} (deleting : t.isDeleting = true)
    (asks : x.request = .tokens (.update (cleaned (unlinked t linked) outcome))) : ¬ Early k x := by
  obtain ⟨guards, same, _⟩ := exists_guards_cleaned t linked outcome
  rintro (⟨reads⟩ | ⟨alive, puts⟩ | ⟨other⟩)
  · cases reads.request.symm.trans asks
  · next t' w =>
    rw [puts.request, same] at asks
    injection asks with asks
    injection asks with asks
    obtain ⟨guards', same'⟩ := exists_guards_guarded t'
    rw [same'] at asks
    have deleted : t'.isDeleting = t.isDeleting := by
      simpa [Object.isDeleting, Metadata.isDeleting] using congrArg Object.isDeleting asks
    rw [alive, deleting] at deleted
    contradiction
  · exact other _ asks

/-- Nor is a write of a status. -/
theorem not_early_of_status {o : AccessToken} {x : Exchange}
    (asks : x.request = .tokens (.updateStatus o)) : ¬ Early k x := by
  rintro (⟨reads⟩ | ⟨_, puts⟩ | ⟨other⟩)
  · cases reads.request.symm.trans asks
  · cases puts.request.symm.trans asks
  · exact other _ asks

/-! ## Copies -/

theorem Reads.stored {x : Exchange} (reads : Reads k t x) :
    x.cluster.tokens.get? k = some t ∧ x.left.tokens = x.cluster.tokens := by
  obtain ⟨found, same⟩ := Prod.mk.inj reads.tokens
  exact ⟨Except.ok.inj found, same.symm⟩

/-- A token that was read stays a copy. -/
theorem Reads.copy {x : Exchange} (reads : Reads k t x) {c : Cluster} (later : x.left.Later c) :
    t.key = k ∧ c.tokens.Snapshot t := by
  obtain ⟨found, same⟩ := reads.stored
  refine ⟨x.sound.tokens.filed found, (x.sound.answer x.chance x.request).token_later later ?_⟩
  change x.left.tokens.Snapshot t
  rw [same]
  exact x.sound.tokens.snapshot found

/-- Guards are put on the very token that was read. -/
theorem written_of_put {y : Exchange} (copy : y.cluster.tokens.Snapshot t)
    (alive : t.isDeleting = false) (puts : y.Tells (.tokens (.update (guarded t))) (.ok w)) :
    y.cluster.tokens.get? t.key = some t ∧
      w = (guarded t).withVersion (y.cluster.tokens.version + 1) ∧
      y.left.tokens = y.cluster.tokens.write w := by
  obtain ⟨guards, same⟩ := exists_guards_guarded t
  obtain ⟨stored, ⟨deleting, _⟩ | ⟨_, rfl, written⟩⟩ :=
    copy.update_cases (o := guarded t) (key_guarded t) (by rw [same]) (by rw [same]; rfl) puts.tokens
  · rw [alive] at deleting
    contradiction
  · exact ⟨stored, rfl, written⟩

/-- The copy that a status is worked out from stays one, and has nothing but guards in which it may
differ from the token that was read. -/
theorem Begun.copy {begun : List Exchange} (begins : Begun k t w begun)
    (order : begun.Pairwise Exchange.Before) {c : Cluster} (later : ∀ y ∈ begun, y.left.Later c) :
    w.key = k ∧ c.tokens.Snapshot w ∧ (w = t ∨ ∃ version, w = (guarded t).withVersion version) := by
  cases begins with
  | read reads alive guarded =>
    obtain ⟨key, copy⟩ := reads.copy (later _ (by simp))
    exact ⟨key, copy, .inl rfl⟩
  | put reads alive bare puts =>
    next x y =>
    have before : x.Before y := by simpa using order
    obtain ⟨key, copy⟩ := reads.copy before
    obtain ⟨_, same, written⟩ := written_of_put copy alive puts
    have filed : w.key = k := by
      rw [same]
      exact (key_guarded t).trans key
    refine ⟨filed, ?_, .inr ⟨_, same⟩⟩
    have sound := y.sound.answer y.chance y.request
    apply sound.token_later (later y (by simp))
    have stored : y.left.tokens.get? k = some w := by
      rw [written]
      exact Store.get?_write_self _ filed
    exact sound.tokens.snapshot stored

/-! ## Writes -/

/-- What an exchange of a pass over a token does to the tokens. A write fails without effect, or it
is made on top of the very copy that the pass goes by, and changes nothing that it is not about. -/
inductive Timely (d : TokenDesk) (k : Key) (past : List Exchange) (x : Exchange) : Prop where
  | idle (other : ∀ o, x.request ≠ .tokens (.update o) ∧ x.request ≠ .tokens (.updateStatus o))
      (same : x.left.tokens = x.cluster.tokens)
  | rejected (fails : x.Fails) (same : x.left = x.cluster)
  | guarded {t : AccessToken} {y : Exchange} (begins : past = [y]) (reads : Reads k t y)
      (stored : x.cluster.tokens.get? k = some t)
      (written : x.left.tokens =
        x.cluster.tokens.write ((guarded t).withVersion (x.cluster.tokens.version + 1)))
  | released {t : AccessToken} {y : Exchange} {seen : List Exchange} {guards : List String}
      (begins : past = y :: seen) (reads : Reads k t y) (fewer : guards.Sublist t.metadata.guards)
      (stored : x.cluster.tokens.get? k = some t)
      (written : x.left.tokens = x.cluster.tokens.write
        ({ t with metadata := { t.metadata with guards := guards } }.withVersion
          (x.cluster.tokens.version + 1)))
  | ended {t : AccessToken} {y : Exchange} {seen : List Exchange} (begins : past = y :: seen)
      (reads : Reads k t y) (deleting : t.isDeleting = true)
      (stored : x.cluster.tokens.get? k = some t)
      (removed : x.left.tokens = x.cluster.tokens.remove k
        { t with metadata := { t.metadata with guards := [] } })
  | restated {t w : AccessToken} {begun looked : List Exchange} {s : TokenStatus}
      (parts : past = begun ++ looked) (begins : Begun k t w begun)
      (same : w = t ∨ ∃ version, w = (TokenDesk.guarded t).withVersion version)
      (yields : (d.desiredStatus w).Yields looked (.ok s))
      (asks : x.request = .tokens (.updateStatus { w with status := s }))
      (stored : x.cluster.tokens.get? k = some w)
      (written : x.left.tokens = x.cluster.tokens.write
        ({ w with status := s }.withVersion (x.cluster.tokens.version + 1)))

/-- Requests to others than the tokens' store leave the tokens alone. -/
private theorem Timely.of_other {x : Exchange} (other : ∀ q, x.request ≠ .tokens q) :
    d.Timely k past x :=
  .idle (fun _ => ⟨other _, other _⟩) (Cluster.tokens_answer _ _ _ other)

/-- Each step of a pass over a token is timely. -/
theorem timely_of_step {x : Exchange} (step : d.Step k past x.request)
    (order : (past ++ [x]).Pairwise Exchange.Before) : d.Timely k past x := by
  obtain ⟨ordered, _, later⟩ := List.pairwise_append.mp order
  replace later : ∀ y ∈ past, y.left.Later x.cluster := fun y here => later y here x (by simp)
  generalize asks : x.request = r at step
  cases step with
  | read =>
    have same : x.left.tokens = x.cluster.tokens := by
      rcases Exchange.tokens_cases asks with fails | ⟨a, tells⟩
      · rw [Exchange.left_of_fails fails]
      · exact (Prod.mk.inj tells.tokens).2.symm
    exact .idle (fun o => by simp [asks]) same
  | put reads alive bare =>
    rcases Exchange.tokens_cases asks with fails | ⟨w, tells⟩
    · exact .rejected fails (Exchange.left_of_fails fails)
    · obtain ⟨key, copy⟩ := reads.copy (later _ (by simp))
      obtain ⟨stored, rfl, written⟩ := written_of_put copy alive tells
      exact .guarded rfl reads (key ▸ stored) written
  | look begins reaches =>
    exact .of_other (asks ▸ ((d.asks_desiredStatus _).reaches reaches).2.ne_tokens)
  | status begins yields differs =>
    rcases Exchange.tokens_cases asks with fails | ⟨a, tells⟩
    · exact .rejected fails (Exchange.left_of_fails fails)
    · obtain ⟨key, copy, same⟩ := begins.copy (List.pairwise_append.mp ordered).1
        fun y here => later y (List.mem_append_left _ here)
      obtain ⟨stored, _, written⟩ := copy.updateStatus_cases differs tells.tokens
      exact .restated rfl begins same yields asks (key ▸ stored) written
  | list reads deleting reaches =>
    unfold holders at reaches
    split at reaches
    · exact .of_other (by simp [asks, (reaches_bindings.mp reaches).2])
    · exact absurd reaches reaches_pure
  | clean reads deleting lists reaches =>
    unfold cleanup at reaches
    split at reaches
    · exact .of_other (by simp [asks, (reaches_attempt.mp reaches).2])
    · exact absurd reaches reaches_pure
  | release reads deleting lists cleans =>
    rcases Exchange.tokens_cases asks with fails | ⟨a, tells⟩
    · exact .rejected fails (Exchange.left_of_fails fails)
    · next t y linked outcome listed gone =>
      obtain ⟨key, copy⟩ := reads.copy (later y (by simp))
      obtain ⟨guards, same, fewer, _⟩ := exists_guards_cleaned t linked outcome
      obtain ⟨stored, ends⟩ := copy.update_cases (by rw [same]; rfl) (by rw [same]) (by rw [same]; rfl)
        tells.tokens
      rw [same, key] at ends
      rcases ends with ⟨_, bare, _, removed⟩ | ⟨_, _, written⟩
      · obtain rfl : guards = [] := bare
        exact .ended rfl reads deleting (key ▸ stored) removed
      · exact .released rfl reads fewer (key ▸ stored) written

end TokenSteward.TokenDesk
