import Mathlib.Data.List.Basic
import TokenSteward.Proofs.Passage.Token
import TokenSteward.Proofs.Snoc

/-! # Guards in a pass over a token

Wherever a pass over a token is given up, what it has done to the guards is one of three things. It
has left them alone. Or the token was not to be deleted and had neither guard, and has got both by
one write. Or the token is to be deleted, and the last exchange of the pass has taken guards off, each
of which was found to be without need before in the same pass.
-/

namespace TokenSteward.TokenDesk

open TokenSteward.Cluster TokenSteward.Resource TokenSteward.Secret Pass

/-- The guards of the token at a key, if it is stored. -/
def guardsAt (c : Cluster) (k : Key) : Option (List String) :=
  (c.tokens.get? k).map (·.metadata.guards)

/-- An exchange leaves the guards of the token at a key as they are. -/
def KeepsGuards (k : Key) (x : Exchange) : Prop := guardsAt x.left k = guardsAt x.cluster k

/-- An exchange has put both guards on a token that had neither and was not to be deleted. -/
structure PutsBoth (k : Key) (t : AccessToken) (x : Exchange) : Prop where
  alive : t.isDeleting = false
  bare : isUnguarded t = true
  stored : x.cluster.tokens.get? k = some t
  both : guardsAt x.left k = some (t.metadata.guards ++ [bindingsGuard, secretGuard])

/-- A guard was found to be without need: no binding was listed that is linked to the token, or the
token's record was deleted. -/
inductive Needless (t : AccessToken) (past : List Exchange) : String → Prop where
  | unlinked {y : Exchange} (here : y ∈ past) (tells : y.Tells
      (.bindings (.list (some t.key.space) (Selector.only linkLabel t.key.name))) (.ok [])) :
      Needless t past bindingsGuard
  | deleted {y : Exchange} {owner : AccessToken} (here : y ∈ past)
      (tells : y.Tells (.vault (.delete owner)) (.ok ()))
      (same : VaultKey.ofOwner owner = VaultKey.ofOwner t) : Needless t past secretGuard

/-- An exchange has taken guards off a token that is to be deleted, each of which was found to be
without need before. The token goes with its last guard. -/
structure TakesOff (k : Key) (t : AccessToken) (past : List Exchange) (x : Exchange) : Prop where
  deleting : t.isDeleting = true
  stored : x.cluster.tokens.get? k = some t
  fewer : ∃ guards, guards.Sublist t.metadata.guards ∧
    guardsAt x.left k = (if guards = [] then none else some guards) ∧
    ∀ guard ∈ t.metadata.guards, guard ∉ guards → Needless t past guard

/-- What the exchanges of a pass over a token have done to its guards, with those that are still to
come: nothing, or one of them has put on both, or the last of all has taken some off. -/
inductive Guarding (k : Key) : List Exchange → List Exchange → Prop where
  | kept {past late : List Exchange} (kept : ∀ y ∈ past, KeepsGuards k y) : Guarding k past late
  | put {t : AccessToken} {x y : Exchange} {rest late : List Exchange} (reads : Reads k t x)
      (puts : PutsBoth k t y) (kept : ∀ z ∈ x :: rest, KeepsGuards k z) :
      Guarding k (x :: y :: rest) late
  | taken {t : AccessToken} {x y : Exchange} {seen : List Exchange} (reads : Reads k t x)
      (takes : TakesOff k t (x :: seen) y) (kept : ∀ z ∈ x :: seen, KeepsGuards k z) :
      Guarding k (x :: (seen ++ [y])) []

variable {d : TokenDesk} {k : Key} {t w : AccessToken} {past late : List Exchange} {x : Exchange}

theorem keepsGuards_of_same (same : x.left.tokens = x.cluster.tokens) : KeepsGuards k x := by
  simp only [KeepsGuards, guardsAt, same]

theorem keepsGuards_of_fails (fails : x.Fails) : KeepsGuards k x := by
  simp only [KeepsGuards, Exchange.left_of_fails fails]

theorem keepsGuards_of_other (other : ∀ q, x.request ≠ .tokens q) : KeepsGuards k x :=
  keepsGuards_of_same (Cluster.tokens_answer _ _ _ other)

/-- A status is written without the guards. -/
theorem keepsGuards_of_restated {s : TokenStatus} {a : AccessToken} (key : w.key = k)
    (copy : x.cluster.tokens.Snapshot w) (differs : s ≠ w.status)
    (tells : x.Tells (.tokens (.updateStatus { w with status := s })) (.ok a)) : KeepsGuards k x := by
  obtain ⟨stored, _, written⟩ := copy.updateStatus_cases differs tells.tokens
  have found := Store.get?_write_self x.cluster.tokens
    (o := { w with status := s }.withVersion (x.cluster.tokens.version + 1)) key
  simp only [KeepsGuards, guardsAt, written, found, key ▸ stored, Option.map_some]
  rfl

theorem Reads.keepsGuards (reads : Reads k t x) : KeepsGuards k x := keepsGuards_of_same reads.stored.2

/-- To list what holds a token leaves the guards alone. -/
private theorem keepsGuards_of_lists {y : Exchange} {linked : List Binding} {listed : List Exchange}
    (reads : Reads k t y) (lists : (holders t).Yields listed (.ok linked)) :
    ∀ z ∈ y :: listed, KeepsGuards k z := by
  refine List.forall_mem_cons.mpr ⟨reads.keepsGuards, ?_⟩
  rcases yields_holders lists with ⟨_, z, rfl, tells⟩ | ⟨_, rfl, _⟩
  · simpa using keepsGuards_of_other (by simp [tells.request])
  · simp

/-- To delete the record of a token leaves the guards alone. -/
private theorem keepsGuards_of_cleans {outcome : Except VaultFailure Unit} {gone : List Exchange}
    (cleans : (cleanup t).Yields gone (.ok outcome)) : ∀ z ∈ gone, KeepsGuards k z := by
  rcases yields_cleanup cleans with ⟨_, z, rfl, tells⟩ | ⟨_, rfl, _⟩
  · simpa using keepsGuards_of_other (by simp [tells.request])
  · simp

/-- A pass that works on the status has put on both guards or has left them alone. -/
private theorem Begun.guarding {begun more : List Exchange} (begins : Begun k t w begun)
    (order : begun.Pairwise Exchange.Before) (kept : ∀ z ∈ more, KeepsGuards k z) :
    Guarding k (begun ++ more) late := by
  cases begins with
  | read reads alive guarded => exact .kept (List.forall_mem_cons.mpr ⟨reads.keepsGuards, kept⟩)
  | put reads alive bare puts =>
    next x y =>
    have before : x.Before y := by simpa using order
    obtain ⟨key, copy⟩ := reads.copy before
    obtain ⟨stored, same, written⟩ := written_of_put copy alive puts
    rw [key] at stored
    refine .put reads ⟨alive, bare, stored, ?_⟩ (List.forall_mem_cons.mpr ⟨reads.keepsGuards, kept⟩)
    have filed : w.key = k := by
      rw [same]
      exact (key_guarded t).trans key
    rw [guardsAt, written, Store.get?_write_self _ filed, Option.map_some, same,
      ← guards_guarded_of_isUnguarded bare]
    rfl

/-- The last exchange of letting a token go takes off only what was found to be without need. -/
private theorem takesOff_of_release {y : Exchange} {linked : List Binding}
    {outcome : Except VaultFailure Unit} {listed gone : List Exchange} {a : AccessToken}
    (reads : Reads k t y) (deleting : t.isDeleting = true)
    (lists : (holders t).Yields listed (.ok linked))
    (cleans : (cleanup (unlinked t linked)).Yields gone (.ok outcome)) (before : y.Before x)
    (tells : x.Tells (.tokens (.update (cleaned (unlinked t linked) outcome))) (.ok a)) :
    TakesOff k t (y :: (listed ++ gone)) x := by
  obtain ⟨key, copy⟩ := reads.copy before
  obtain ⟨guards, same, fewer, taken⟩ := exists_guards_cleaned t linked outcome
  have filed : (cleaned (unlinked t linked) outcome).key = t.key := by rw [same]; rfl
  obtain ⟨stored, ends⟩ := copy.update_cases filed (by rw [same]) (by rw [same]; rfl) tells.tokens
  refine ⟨deleting, key ▸ stored, guards, fewer, ?_, ?_⟩
  · rw [same, key] at ends
    rcases ends with ⟨_, bare, _, removed⟩ | ⟨held, _, written⟩
    · rw [if_pos bare, guardsAt, removed, Store.get?_remove_self]
      rfl
    · rw [if_neg (held deleting), guardsAt, written]
      have found := Store.get?_write_self x.cluster.tokens
        (o := { t with metadata := { t.metadata with guards := guards } }.withVersion
          (x.cluster.tokens.version + 1)) key
      rw [found]
      rfl
  · intro guard there off
    have carried : t.metadata.hasGuard guard = true := by simpa [Metadata.hasGuard] using there
    rcases taken guard there off with ⟨rfl, rfl⟩ | ⟨rfl, rfl⟩
    · rcases yields_holders lists with ⟨_, z, rfl, tells⟩ | ⟨free, _⟩
      · exact .unlinked (y := z) (by simp) tells
      · rw [free] at carried
        contradiction
    · obtain ⟨left, alike, _, kept⟩ := exists_guards_cleaned t linked (.error (.backend ""))
      have alike : unlinked t linked = { t with metadata := { t.metadata with guards := left } } := alike
      have still : (unlinked t linked).metadata.hasGuard secretGuard = true := by
        rw [alike]
        by_cases here : secretGuard ∈ left
        · simpa [Metadata.hasGuard] using here
        · rcases kept secretGuard there here with ⟨same, _⟩ | ⟨_, none⟩
          · exact absurd same (by decide)
          · contradiction
      rcases yields_cleanup cleans with ⟨_, z, rfl, tells⟩ | ⟨free, _⟩
      · exact .deleted (y := z) (by simp) tells (by rw [alike]; rfl)
      · rw [free] at still
        contradiction

/-- What a pass over a token has done to the guards up to one of its steps. -/
private theorem guarding_of_step (step : d.Step k past x.request)
    (order : (past ++ [x]).Pairwise Exchange.Before) (last : ¬ Early k x → late = []) :
    Guarding k (past ++ [x]) late := by
  obtain ⟨ordered, _, earlier⟩ := List.pairwise_append.mp order
  replace earlier : ∀ y ∈ past, y.Before x := fun y here => earlier y here x (by simp)
  generalize asks : x.request = r at step
  cases step with
  | read =>
    rcases Exchange.tokens_cases asks with fails | ⟨a, tells⟩
    · exact .kept (by simpa using keepsGuards_of_fails fails)
    · exact .kept (by simpa using keepsGuards_of_same (Prod.mk.inj tells.tokens).2.symm)
  | put reads alive bare =>
    rcases Exchange.tokens_cases asks with fails | ⟨w, tells⟩
    · exact .kept (by simpa using ⟨reads.keepsGuards, keepsGuards_of_fails fails⟩)
    · next t y =>
      have begins := Begun.put reads alive bare tells
      have guarding : Guarding k ([y, x] ++ []) late := begins.guarding order (by simp)
      exact guarding
  | look begins reaches =>
    next t w begun looked =>
    have asked := (d.asks_desiredStatus w).reaches reaches
    rw [← asks] at asked
    have kept : ∀ z ∈ looked ++ [x], KeepsGuards k z := by
      refine forall_mem_snoc (fun z here => keepsGuards_of_other (asked.1 z here).ne_tokens) ?_
      exact keepsGuards_of_other asked.2.ne_tokens
    rw [List.append_assoc]
    exact begins.guarding (List.pairwise_append.mp ordered).1 kept
  | status begins yields differs =>
    next t w begun looked s =>
    have begunOrder := (List.pairwise_append.mp ordered).1
    have kept : ∀ z ∈ looked ++ [x], KeepsGuards k z := by
      have asked := (d.asks_desiredStatus w).yields yields
      refine forall_mem_snoc (fun z here => keepsGuards_of_other (asked z here).ne_tokens) ?_
      rcases Exchange.tokens_cases asks with fails | ⟨a, tells⟩
      · exact keepsGuards_of_fails fails
      · obtain ⟨key, copy, _⟩ := begins.copy begunOrder fun y here =>
          earlier y (List.mem_append_left _ here)
        exact keepsGuards_of_restated key copy differs tells
    rw [List.append_assoc]
    exact begins.guarding begunOrder kept
  | list reads deleting reaches =>
    refine .kept (forall_mem_snoc (by simpa using reads.keepsGuards) (keepsGuards_of_other ?_))
    unfold holders at reaches
    split at reaches
    · simp [asks, (reaches_bindings.mp reaches).2]
    · exact absurd reaches reaches_pure
  | clean reads deleting lists reaches =>
    refine .kept (forall_mem_snoc (keepsGuards_of_lists reads lists) (keepsGuards_of_other ?_))
    unfold cleanup at reaches
    split at reaches
    · simp [asks, (reaches_attempt.mp reaches).2]
    · exact absurd reaches reaches_pure
  | release reads deleting lists cleans =>
    have kept := List.forall_mem_append.mpr
      ⟨keepsGuards_of_lists reads lists, keepsGuards_of_cleans cleans⟩
    rw [List.cons_append] at kept
    rcases Exchange.tokens_cases asks with fails | ⟨a, tells⟩
    · exact .kept (forall_mem_snoc kept (keepsGuards_of_fails fails))
    · rw [last fun early => not_early_of_release deleting asks early, List.cons_append]
      exact .taken reads (takesOff_of_release reads deleting lists cleans (earlier _ (by simp)) tells) kept

/-- What a pass over a token has done to the guards, wherever it is given up. -/
theorem guarding_of_play (g : Ground) (comes : Nat → Between)
    (parts : ((d.pass k).play comes 0 g).1 = past ++ late) : Guarding k past late := by
  rcases past.eq_nil_or_concat' with rfl | ⟨before, x, rfl⟩
  · exact .kept (by simp)
  · rw [List.append_assoc] at parts
    refine guarding_of_step (step_of_reaches (reaches_of_play parts)) (ordered_of_play parts) ?_
    intro notEarly
    cases late with
    | nil => rfl
    | cons z late =>
      have further := step_of_reaches (reaches_of_play (List.append_assoc _ _ _ ▸ parts))
      exact absurd (further.early x (by simp)) notEarly

end TokenSteward.TokenDesk
