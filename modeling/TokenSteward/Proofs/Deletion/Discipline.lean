import TokenSteward.Proofs.Pass.Guards
import TokenSteward.Proofs.Pass.Requests
import TokenSteward.Proofs.Traffic.Basic

/-! # The discipline of letting go

What a pass knows of the token that it is over is the copy that it read last, and which of its guards
it has found to be without need: the one for bindings when none was listed as linked to the token,
the one for the record when the vault has deleted that. A pass takes a guard off a token only if the
token's deletion was requested and the guard was found to be without need, and then it names the
version of its copy. It neither deletes tokens nor stores records.
-/

namespace TokenSteward

open TokenSteward.Cluster TokenSteward.Resource TokenSteward.Secret Pass

/-- The copy of a token that a pass goes by, and the guards that it has found to be without need
since it read the copy. -/
structure Told where
  token : Option AccessToken
  needless : List String

namespace Told

/-- A pass that was told nothing. -/
def nothing : Told := ⟨none, []⟩

/-- A pass that has just read a token. -/
def read (t : AccessToken) : Told := ⟨some t, []⟩

/-- A guard was found to be without need, if some condition on the token holds. -/
def finds (told : Told) (guard : String) (holds : AccessToken → Bool) : Told :=
  if told.token.any holds then { told with needless := guard :: told.needless } else told

/-- Whether a listing is the one of the bindings that are linked to a token. -/
def listsLinked (space : Option String) (wanted : Selector) (t : AccessToken) : Bool :=
  decide (space = some t.key.space) && decide (wanted = Selector.only linkLabel t.key.name)

/-- What a pass knows after an answer. -/
def hear (told : Told) : (r : Request) → r.Answer → Told
  | .tokens (.get _), .ok (some t) => read t
  | .tokens (.update _), .ok t => if t.isDeleting then told else read t
  | .bindings (.list space wanted), .ok [] => told.finds bindingsGuard (listsLinked space wanted)
  | .vault (.delete owner), .ok () =>
    told.finds secretGuard fun t => decide (VaultKey.ofOwner owner = VaultKey.ofOwner t)
  | _, _ => told

end Told

/-- The new version of a token takes off only guards that were found to be without need, and only
if the deletion was requested. -/
structure Releases (told : Told) (t o : AccessToken) : Prop where
  key : o.key = t.key
  version : o.metadata.version = t.metadata.version
  kept : ∀ guard, t.metadata.hasGuard guard = true →
    o.metadata.hasGuard guard = true ∨ (t.isDeleting = true ∧ guard ∈ told.needless)

/-- What passes may ask for as far as the deletion of tokens is concerned. -/
def letGo : Discipline Told where
  allows told
    | .tokens (.update o) => ∃ t, told.token = some t ∧ Releases told t o
    | .tokens (.delete _) => False
    | .vault (.store _ _) => False
    | _ => True
  leads told r answer later := later = told.hear r answer

theorem releases_guarded (told : Told) (t : AccessToken) : Releases told t (TokenDesk.guarded t) := by
  obtain ⟨guards, same⟩ := TokenDesk.exists_guards_guarded t
  refine ⟨by rw [same]; rfl, by rw [same], fun guard present => .inl ?_⟩
  simp [TokenDesk.hasGuard_guarded, present]

theorem releases_self (told : Told) (t : AccessToken) : Releases told t t :=
  ⟨rfl, rfl, fun _ present => .inl present⟩

theorem Releases.mono {told later : Told} {t o : AccessToken} (releases : Releases told t o)
    (more : told.needless ⊆ later.needless) : Releases later t o :=
  ⟨releases.key, releases.version, fun guard present =>
    (releases.kept guard present).imp_right fun ⟨deleting, found⟩ => ⟨deleting, more found⟩⟩

/-- One more guard may be taken off that was found to be without need. -/
theorem Releases.released {told : Told} {t o : AccessToken} (releases : Releases told t o)
    (deleting : t.isDeleting = true) {guard : String} (needless : guard ∈ told.needless) :
    Releases told t (TokenDesk.released o guard) := by
  obtain ⟨key, version, kept⟩ := releases
  refine ⟨key, version, ?_⟩
  intro other present
  by_cases same : other = guard
  · subst same
    exact .inr ⟨deleting, needless⟩
  · apply (kept other present).imp_left
    intro present
    simp [TokenDesk.released, Metadata.hasGuard_removeGuard, same, present]

namespace TokenDesk

variable {t : AccessToken}

theorem obeys_holders : (holders t).Obeys letGo (fun told result =>
    told.token = some t ∧ ∀ linked, result = .ok linked → t.metadata.hasGuard bindingsGuard = true →
      linked = [] → bindingsGuard ∈ told.needless) (.read t) := by
  unfold holders
  split
  · refine obeys_bindings.mpr ⟨trivial, fun answer told heard => ?_⟩
    obtain rfl := heard
    rcases answer with f | _ | ⟨b, more⟩
    · exact ⟨rfl, fun linked same => by contradiction⟩
    · constructor
      · simp [Told.hear, Told.finds, Told.read, Told.listsLinked]
      · intro _ _ _ _
        simp [Told.hear, Told.finds, Told.read, Told.listsLinked]
    · refine ⟨rfl, ?_⟩
      intro linked same _ none
      obtain rfl := Except.ok.inj same
      contradiction
  · next absent => exact ⟨rfl, fun _ _ held => absurd held absent⟩

theorem obeys_cleanup {told : Told} {o : AccessToken} (token : told.token = some t)
    (owner : VaultKey.ofOwner o = VaultKey.ofOwner t) :
    (cleanup o).Obeys letGo (fun later result => later.token = some t ∧
      told.needless ⊆ later.needless ∧
      (o.metadata.hasGuard secretGuard = true → result = .ok (.ok ()) → secretGuard ∈ later.needless))
      told := by
  unfold cleanup
  split
  · refine obeys_attempt.mpr ⟨trivial, fun answer later heard => ?_⟩
    obtain rfl := heard
    cases answer with
    | ok u =>
      have heard : told.hear (.vault (.delete o)) (.ok u) =
          { told with needless := secretGuard :: told.needless } := by
        simp [Told.hear, Told.finds, token, owner]
      rw [heard]
      exact ⟨token, List.subset_cons_self _ _, fun _ _ => List.mem_cons_self⟩
    | error f => exact ⟨token, List.Subset.refl _, fun _ same => by simp at same⟩
  · next absent => exact ⟨token, List.Subset.refl _, fun kept => absurd kept absent⟩

theorem obeys_finalize (d : TokenDesk) (deleting : t.isDeleting = true) :
    (d.finalize t).Obeys letGo (fun _ _ => True) (.read t) := by
  rw [finalize_eq, obeys_bind]
  refine obeys_holders.mono fun told result ⟨token, needless⟩ => ?_
  cases result with
  | error f => trivial
  | ok linked =>
    have first : Releases told t (unlinked t linked) ∧
        VaultKey.ofOwner (unlinked t linked) = VaultKey.ofOwner t := by
      unfold unlinked
      split
      · next free =>
        rw [Bool.and_eq_true, List.isEmpty_iff] at free
        exact ⟨(releases_self told t).released deleting (needless linked rfl free.1 free.2), rfl⟩
      · exact ⟨releases_self told t, rfl⟩
    refine obeys_bind.mpr ((obeys_cleanup token first.2).mono fun later outcome ⟨token, more, gone⟩ => ?_)
    cases outcome with
    | error f => trivial
    | ok outcome =>
      have second : Releases later t (cleaned (unlinked t linked) outcome) := by
        unfold cleaned
        split
        · split
          · next kept => exact (first.1.mono more).released deleting (gone kept rfl)
          · exact first.1.mono more
        · exact first.1.mono more
      have written : (writeGuards t (cleaned (unlinked t linked) outcome)).Obeys letGo
          (fun _ _ => True) later := by
        unfold writeGuards
        split
        · exact obeys_bind.mpr (obeys_tokens.mpr ⟨⟨t, token, second⟩, fun answer _ _ => by
            cases answer <;> trivial⟩)
        · trivial
      apply obeys_bind.mpr
      apply written.mono
      intro last result _
      cases result with
      | error f => trivial
      | ok u => cases outcome <;> trivial

/-- The pass over a token obeys. -/
theorem obeys_pass (d : TokenDesk) (k : Key) : (d.pass k).Obeys letGo (fun _ _ => True) .nothing := by
  rw [pass_eq]
  refine obeys_bind.mpr (obeys_tokens.mpr ⟨trivial, fun answer told heard => ?_⟩)
  obtain rfl := heard
  rcases answer with f | _ | t
  · trivial
  · trivial
  · change Obeys letGo (fun _ _ => True) (Told.read t) (if t.isDeleting = true then d.finalize t else _)
    split
    · next deleting => exact obeys_finalize d deleting
    · next alive =>
      have work (t : AccessToken) (told : Told) : (d.work t).Obeys letGo (fun _ _ => True) told := by
        refine (d.asks_work t).obeys (fun told r request => ?_) told
        rcases request with looks | ⟨o, rfl⟩
        · cases looks <;> trivial
        · trivial
      split
      · refine obeys_bind.mpr (obeys_tokens.mpr ⟨⟨t, rfl, releases_guarded _ t⟩, fun answer _ _ => ?_⟩)
        cases answer with
        | ok t => exact work t _
        | error f => trivial
      · exact work t _

end TokenDesk

/-- Every pass obeys the discipline of letting go. -/
theorem Errand.obeys_letGo (e : Errand) : e.pass.Obeys letGo (fun _ _ => True) .nothing := by
  cases e with
  | token d k => exact d.obeys_pass k
  | binding d k =>
    refine (d.asks_pass k).obeys (fun known r request => ?_) Told.nothing
    cases request <;> trivial
  | update d k =>
    refine (d.asks_pass k).obeys (fun known r request => ?_) Told.nothing
    cases request <;> trivial

end TokenSteward
