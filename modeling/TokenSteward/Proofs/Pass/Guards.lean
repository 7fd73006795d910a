import TokenSteward.Pass.Token
import TokenSteward.Proofs.Pass.Discipline

/-! # Guards of a token

A token gets both guards at once, and nothing else of it changes then. Letting it go takes four steps
one after the other: the bindings that hold it are listed, its record is deleted, the token is
written without the guards that are not needed any more, and the pass ends. Each step is passed over
if there is nothing to do in it.
-/

namespace TokenSteward.TokenDesk

open TokenSteward.Cluster TokenSteward.Resource TokenSteward.Secret Pass

theorem hasGuard_guarded (t : AccessToken) (guard : String) :
    (guarded t).metadata.hasGuard guard =
      (decide (guard = secretGuard) || (decide (guard = bindingsGuard) || t.metadata.hasGuard guard)) := by
  simp only [guarded, Metadata.hasGuard_addGuard]

/-- To put guards on a token changes nothing else of its metadata. -/
theorem exists_guards_guarded (t : AccessToken) :
    ∃ guards, guarded t = { t with metadata := { t.metadata with guards := guards } } := by
  have added (m : Metadata) (guard : String) : ∃ guards, m.addGuard guard = { m with guards := guards } := by
    unfold Metadata.addGuard
    split
    · exact ⟨m.guards, rfl⟩
    · exact ⟨_, rfl⟩
  obtain ⟨first, one⟩ := added t.metadata bindingsGuard
  obtain ⟨both, two⟩ := added { t.metadata with guards := first } secretGuard
  refine ⟨both, ?_⟩
  simp only [guarded, one, two]

/-- A token with neither guard gets both. -/
theorem guards_guarded_of_isUnguarded {t : AccessToken} (bare : isUnguarded t = true) :
    (guarded t).metadata.guards = t.metadata.guards ++ [bindingsGuard, secretGuard] := by
  have added (m : Metadata) (guard : String) (absent : m.hasGuard guard = false) :
      (m.addGuard guard).guards = m.guards ++ [guard] := by
    simp [Metadata.addGuard, absent]
  simp only [isUnguarded, Bool.and_eq_true, Bool.not_eq_true'] at bare
  have second : (t.metadata.addGuard bindingsGuard).hasGuard secretGuard = false := by
    rw [Metadata.hasGuard_addGuard, bare.2]
    decide
  simp only [guarded, added _ _ second, added _ _ bare.1, List.append_assoc, List.cons_append,
    List.nil_append]

theorem key_guarded (t : AccessToken) : (guarded t).key = t.key := by
  obtain ⟨guards, same⟩ := exists_guards_guarded t
  rw [same]
  rfl

theorem guards_guarded (t : AccessToken) : (guarded t).metadata.guards ≠ [] := by
  intro bare
  have present := hasGuard_guarded t secretGuard
  simp [Metadata.hasGuard, bare] at present

variable (d : TokenDesk) (t : AccessToken)

/-- The bindings that hold a token. -/
def holders : Pass (List Binding) :=
  if t.metadata.hasGuard bindingsGuard then linkedBindings t.key else pure []

/-- The token without the guard for bindings, if none of them hold it. -/
def unlinked (linked : List Binding) : AccessToken :=
  if t.metadata.hasGuard bindingsGuard && linked.isEmpty then released t bindingsGuard else t

/-- Deletes the record of a token, if that is guarded. -/
def cleanup : Pass (Except VaultFailure Unit) :=
  if t.metadata.hasGuard secretGuard then Pass.attempt (.vault (.delete t)) else pure (.ok ())

/-- The token without the guard for its record, if that is gone. -/
def cleaned : Except VaultFailure Unit → AccessToken
  | .ok () => if t.metadata.hasGuard secretGuard then released t secretGuard else t
  | .error _ => t

/-- Writes a token if its guards are others than they were. -/
def writeGuards (next : AccessToken) : Pass Unit :=
  if next.metadata.guards ≠ t.metadata.guards then Pass.tokens (.update next) >>= fun _ => pure ()
  else pure ()

/-- The end of letting a token go. -/
def ending (blocked : Bool) : Except VaultFailure Unit → Pass Action
  | .error f => .fail (.vault f)
  | .ok () => pure (if blocked then .requeue d.recheck else .await)

/-- Letting go takes off nothing but guards: the one for bindings if none hold the token, and the one
for the record if that is gone. -/
theorem exists_guards_cleaned (linked : List Binding) (outcome : Except VaultFailure Unit) :
    ∃ guards, cleaned (unlinked t linked) outcome =
        { t with metadata := { t.metadata with guards := guards } } ∧
      guards.Sublist t.metadata.guards ∧
      ∀ guard ∈ t.metadata.guards, guard ∉ guards →
        (guard = bindingsGuard ∧ linked = []) ∨ (guard = secretGuard ∧ outcome = .ok ()) := by
  have first : ∃ guards, unlinked t linked = { t with metadata := { t.metadata with guards := guards } } ∧
      guards.Sublist t.metadata.guards ∧
      ∀ guard ∈ t.metadata.guards, guard ∉ guards → guard = bindingsGuard ∧ linked = [] := by
    unfold unlinked
    split
    · next free =>
      rw [Bool.and_eq_true, List.isEmpty_iff] at free
      refine ⟨_, rfl, List.filter_sublist, fun guard there gone => ⟨?_, free.2⟩⟩
      simpa [there] using gone
    · exact ⟨_, rfl, .refl _, fun guard there gone => absurd there gone⟩
  obtain ⟨guards, same, fewer, taken⟩ := first
  rw [same]
  cases outcome with
  | error f => exact ⟨guards, rfl, fewer, fun guard there gone => .inl (taken guard there gone)⟩
  | ok u =>
    simp only [cleaned]
    split
    · refine ⟨_, rfl, List.filter_sublist.trans fewer, fun guard there gone => ?_⟩
      by_cases kept : guard ∈ guards
      · refine .inr ⟨?_, trivial⟩
        simpa [kept] using gone
      · exact .inl (taken guard there kept)
    · exact ⟨guards, rfl, fewer, fun guard there gone => .inl (taken guard there gone)⟩

private theorem holders_bind {β : Type} (next : List Binding → Pass β) :
    (holders t >>= next) =
      if t.metadata.hasGuard bindingsGuard then linkedBindings t.key >>= next else next [] := by
  unfold holders
  split <;> rfl

private theorem cleanup_bind {β : Type} (next : Except VaultFailure Unit → Pass β) :
    (cleanup t >>= next) =
      if t.metadata.hasGuard secretGuard then
        Pass.attempt (.vault (.delete t)) >>= next
      else next (.ok ()) := by
  unfold cleanup
  split <;> rfl

private theorem writeGuards_bind {β : Type} (o : AccessToken) (next : Unit → Pass β) :
    (writeGuards t o >>= next) =
      if o.metadata.guards ≠ t.metadata.guards then Pass.tokens (.update o) >>= fun _ => next ()
      else next () := by
  unfold writeGuards
  split
  · rw [bind_assoc]
    rfl
  · rfl

theorem finalize_eq : d.finalize t = (do
    let linked ← holders t
    let outcome ← cleanup (unlinked t linked)
    writeGuards t (cleaned (unlinked t linked) outcome)
    d.ending (t.metadata.hasGuard bindingsGuard && !linked.isEmpty) outcome) := by
  simp only [holders_bind, cleanup_bind, writeGuards_bind]
  by_cases held : t.metadata.hasGuard bindingsGuard = true
  · rw [if_pos held]
    refine (if_pos held).trans (bind_congr fun linked => ?_)
    by_cases kept : (unlinked t linked).metadata.hasGuard secretGuard = true
    · rw [if_pos kept]
      refine (if_pos kept).trans (bind_congr fun outcome => ?_)
      cases outcome <;> rfl
    · rw [if_neg kept]
      exact if_neg kept
  · rw [if_neg held]
    apply (if_neg held).trans
    by_cases kept : (unlinked t []).metadata.hasGuard secretGuard = true
    · rw [if_pos kept]
      refine (if_pos kept).trans (bind_congr fun outcome => ?_)
      cases outcome <;> rfl
    · rw [if_neg kept]
      exact if_neg kept

/-- How a pass that lets a token go ends while a discipline allows everything: a request to a store or
to the vault has failed, or the record is gone, and the guards have stayed or were written. -/
theorem finalize_obeys {k : Discipline Unit} {ending : Except Failure Action → Prop}
    (allows : ∀ r, k.allows () r) (store : ∀ f, ending (.error (.store f)))
    (vault : ∀ f, ending (.error (.vault f)))
    (done : ∀ linked next, next = cleaned (unlinked t linked) (.ok ()) →
      (next.metadata.guards = t.metadata.guards ∨
        ∃ w, k.leads () (.tokens (.update next)) (.ok w) ()) →
      ending (.ok (if t.metadata.hasGuard bindingsGuard && !linked.isEmpty then .requeue d.recheck
        else .await))) :
    (d.finalize t).Obeys k (fun _ => ending) () := by
  have listed : (holders t).Obeys k (fun _ result => ∀ f, result = .error f → ∃ g, f = .store g) () := by
    unfold holders
    split
    · refine obeys_bindings.mpr ⟨allows _, fun answer _ _ f failed => ?_⟩
      cases answer with
      | error g => exact ⟨g, (Except.error.inj failed).symm⟩
      | ok linked => contradiction
    · exact fun f failed => by contradiction
  have deleted (o : AccessToken) :
      (cleanup o).Obeys k (fun _ result => ∃ outcome, result = .ok outcome) () := by
    unfold cleanup
    split
    · exact obeys_attempt.mpr ⟨allows _, fun answer _ _ => ⟨answer, rfl⟩⟩
    · exact ⟨_, rfl⟩
  have written (o : AccessToken) : (writeGuards t o).Obeys k (fun _ result => match result with
      | .ok _ => o.metadata.guards = t.metadata.guards ∨ ∃ w, k.leads () (.tokens (.update o)) (.ok w) ()
      | .error f => ∃ g, f = .store g) () := by
    unfold writeGuards
    split
    · refine obeys_bind.mpr (obeys_tokens.mpr ⟨allows _, fun answer _ leads => ?_⟩)
      cases answer with
      | error g => exact ⟨g, rfl⟩
      | ok w => exact .inr ⟨w, leads⟩
    · next same => exact .inl (Decidable.not_not.mp same)
  rw [finalize_eq, obeys_bind]
  apply listed.mono
  intro _ result failed
  cases result with
  | error f =>
    obtain ⟨g, rfl⟩ := failed f rfl
    exact store g
  | ok linked =>
    apply obeys_bind.mpr
    apply (deleted _).mono
    rintro _ _ ⟨outcome, rfl⟩
    apply obeys_bind.mpr
    apply (written _).mono
    intro _ result kept
    cases result with
    | error f =>
      obtain ⟨g, rfl⟩ := kept
      exact store g
    | ok u =>
      cases outcome with
      | error f => exact vault f
      | ok u => exact done linked _ rfl kept

/-- What a pass asks for that lets a token go. -/
inductive LetsGo (t : AccessToken) : Request → Prop where
  | holders (space : Option String) (wanted : Selector) : LetsGo t (.bindings (.list space wanted))
  | cleanup (owner : AccessToken) (key : owner.key = t.key) (uid : owner.metadata.uid = t.metadata.uid) :
      LetsGo t (.vault (.delete owner))
  | write (o : AccessToken) : LetsGo t (.tokens (.update o))

theorem asks_finalize : (d.finalize t).Asks (LetsGo t) := by
  rw [finalize_eq]
  have listed : (holders t).Asks (LetsGo t) := by
    unfold holders
    split
    · exact asks_bindings (.holders _ _)
    · exact asks_pure _
  apply listed.bind
  intro linked
  have owner : (unlinked t linked).key = t.key ∧
      (unlinked t linked).metadata.uid = t.metadata.uid := by
    unfold unlinked
    split <;> exact ⟨rfl, rfl⟩
  have deleted : (cleanup (unlinked t linked)).Asks (LetsGo t) := by
    unfold cleanup
    split
    · exact asks_attempt (.cleanup _ owner.1 owner.2)
    · exact asks_pure _
  apply deleted.bind
  intro outcome
  have written (o : AccessToken) : (writeGuards t o).Asks (LetsGo t) := by
    unfold writeGuards
    split
    · exact (asks_tokens (.write o)).bind fun _ => asks_pure _
    · exact asks_pure _
  apply (written _).bind
  intro _
  cases outcome <;> trivial

end TokenSteward.TokenDesk
