import TokenSteward.Proofs.Passage.LetGo

/-! # The two gates of a deletion

Two guards hold a token whose deletion is requested, and each of them has a gate of its own: the listing
of the bindings decides on one guard, the deletion of the record on the other. A pass goes through both
gates unless the listing fails. Then it ends right there, and the record is not asked about.
-/

namespace TokenSteward

open TokenSteward.Cluster TokenSteward.Resource TokenSteward.Secret Pass

/-- Whether a request is for a record to be deleted. -/
def Cluster.Request.deletesRecord : Request → Bool
  | .vault (.delete _) => true
  | _ => false

/-- Whether a request is for a token to be written without a guard. -/
def Cluster.Request.withdraws (guard : String) : Request → Bool
  | .tokens (.update o) => !o.metadata.hasGuard guard
  | _ => false

namespace TokenDesk

/-- A pass has lifted a guard of a token: it has asked for the token to be written without it. -/
def Lifts (t : AccessToken) (guard : String) (past : List Exchange) : Prop :=
  t.metadata.hasGuard guard = true ∧ ∃ x ∈ past, x.request.withdraws guard = true

instance (t : AccessToken) (guard : String) (past : List Exchange) : Decidable (Lifts t guard past) :=
  inferInstanceAs (Decidable (_ ∧ _))

/-- What a pass over a token comes to whose deletion is requested, as far as each gate goes. -/
structure Gated (t : AccessToken) (past : List Exchange) (result : Except Failure Action) : Prop where
  /-- A guarded record is deleted exactly once, whatever bindings were listed. -/
  deletes : t.metadata.hasGuard secretGuard = true →
    (∀ x ∈ past, ∀ space wanted, x.request = .bindings (.list space wanted) → ¬ x.Fails) →
    past.countP (·.request.deletesRecord) = 1
  spares : t.metadata.hasGuard secretGuard = false → past.countP (·.request.deletesRecord) = 0
  /-- If the listing fails, then nothing else happens. -/
  stops : ∀ x ∈ past, ∀ space wanted f, x.Tells (.bindings (.list space wanted)) (.error f) →
    result = .error (.store f) ∧ past.countP (·.request.deletesRecord) = 0 ∧
      ∀ guard, ¬ Lifts t guard past
  /-- The guard of the record goes by the deletion of the record alone. -/
  secret : Lifts t secretGuard past ↔ ∃ x ∈ past, ∃ owner, x.Tells (.vault (.delete owner)) (.ok ())
  /-- The guard for bindings goes by the listing of the bindings alone. -/
  bindings : Lifts t bindingsGuard past ↔
    ∃ x ∈ past, ∃ space wanted, x.Tells (.bindings (.list space wanted)) (.ok [])

variable {d : TokenDesk} {k : Key} {t : AccessToken} {past early rest : List Exchange} {x : Exchange}
  {outcome : Except VaultFailure Unit} {linked : List Binding} {result : Except Failure Action}

/-! ## Which guards stay -/

theorem hasGuard_keeping_secret {blocked gone : Bool} :
    (keeping t blocked gone).metadata.hasGuard secretGuard =
      (t.metadata.hasGuard secretGuard && !gone) := by
  have other : secretGuard ≠ bindingsGuard := by decide
  rw [Bool.eq_iff_iff]
  simp [keeping, keptGuards, Metadata.hasGuard, other]

theorem hasGuard_keeping_bindings {blocked gone : Bool} :
    (keeping t blocked gone).metadata.hasGuard bindingsGuard =
      (t.metadata.hasGuard bindingsGuard && blocked) := by
  have other : bindingsGuard ≠ secretGuard := by decide
  rw [Bool.eq_iff_iff]
  simp [keeping, keptGuards, Metadata.hasGuard, other]

/-! ## Which guards are lifted -/

/-- No guard is lifted before the write. -/
theorem Prepares.holds (prepares : Prepares k t outcome x) (guard : String) :
    x.request.withdraws guard = false := by
  have silent := prepares.silent
  cases asks : x.request with
  | tokens q =>
    rw [asks] at silent
    cases q <;> first | rfl | contradiction
  | _ => rfl

/-- The guards that are lifted are those that do not stay. -/
theorem lifts_iff {guard : String} (prelude : Prelude k t outcome early)
    (releases : d.Released t linked outcome rest result) :
    Lifts t guard (early ++ rest) ↔ t.metadata.hasGuard guard = true ∧
      (keeping t (isBlocked t linked) (isCleared t outcome)).metadata.hasGuard guard = false := by
  constructor
  · rintro ⟨held, x, here, withdraws⟩
    rcases List.mem_append.mp here with there | there
    · rw [(prelude.prepares x there).holds guard] at withdraws
      contradiction
    · rw [(releases.only there).2] at withdraws
      exact ⟨held, by simpa [Cluster.Request.withdraws] using withdraws⟩
  · rintro ⟨held, lifted⟩
    have writes := releases.requests
    rw [if_neg] at writes
    · obtain ⟨x, there, asks⟩ := List.exists_of_mem_map
        (writes ▸ List.mem_singleton_self _ : _ ∈ rest.map (·.request))
      refine ⟨held, x, List.mem_append_right _ there, ?_⟩
      simp [asks, Cluster.Request.withdraws, lifted]
    · intro kept
      have stays : (keeping t (isBlocked t linked) (isCleared t outcome)).metadata.hasGuard guard =
          t.metadata.hasGuard guard := congrArg (·.contains guard) kept
      rw [stays, held] at lifted
      contradiction

/-! ## Through both gates -/

/-- A record is deleted once before the write if it is guarded. -/
theorem countP_deletes_of_prelude {listed gone : List Exchange} (reads : Reads k t x)
    (lists : (holders t).Yields listed (.ok linked))
    (cleans : (cleanup (unlinked t linked)).Yields gone (.ok outcome)) (writes : AreWrites rest) :
    (x :: (listed ++ gone) ++ rest).countP (·.request.deletesRecord) =
      if t.metadata.hasGuard secretGuard then 1 else 0 := by
  have reading : x.request.deletesRecord = false := by
    rw [Exchange.Tells.request reads]
    rfl
  have listing : listed.countP (·.request.deletesRecord) = 0 := by
    rcases yields_holders lists with ⟨_, y, rfl, tells⟩ | ⟨_, rfl, _⟩
    · simp [tells.request, Cluster.Request.deletesRecord]
    · rfl
  have writing : rest.countP (·.request.deletesRecord) = 0 := by
    refine List.countP_eq_zero.mpr fun y here => ?_
    obtain ⟨o, asks⟩ := writes y here
    simp [asks, Cluster.Request.deletesRecord]
  have cleaning : gone.countP (·.request.deletesRecord) =
      if t.metadata.hasGuard secretGuard then 1 else 0 := by
    rw [← hasGuard_unlinked t linked]
    rcases yields_cleanup cleans with ⟨guarded, z, rfl, deletes⟩ | ⟨free, rfl, _⟩
    · simp [guarded, deletes.request, Cluster.Request.deletesRecord]
    · simp [free]
  simp [reading, listing, writing, cleaning]

/-- The bindings were listed, and none of them is linked. -/
theorem unblocked_iff {listed : List Exchange} (lists : (holders t).Yields listed (.ok linked)) :
    t.metadata.hasGuard bindingsGuard = true ∧ isBlocked t linked = false ↔
      ∃ y ∈ listed, ∃ space wanted, y.Tells (.bindings (.list space wanted)) (.ok []) := by
  rcases yields_holders lists with ⟨held, y, rfl, tells⟩ | ⟨free, rfl, _⟩
  · constructor
    · rintro ⟨_, unblocked⟩
      obtain rfl : linked = [] := by simpa [isBlocked, held] using unblocked
      exact ⟨y, List.mem_singleton_self y, _, _, tells⟩
    · rintro ⟨z, here, space, wanted, told⟩
      obtain rfl := List.mem_singleton.mp here
      cases tells.request.symm.trans told.request
      cases tells.answer_unique told
      simp [held, isBlocked]
  · simp [free]

/-- Once the bindings are listed, each guard goes by its own gate. -/
theorem gated_of_listed {listed gone : List Exchange} (reads : Reads k t x)
    (lists : (holders t).Yields listed (.ok linked))
    (cleans : (cleanup (unlinked t linked)).Yields gone (.ok outcome))
    (releases : d.Released t linked outcome rest result) :
    Gated t (x :: (listed ++ gone) ++ rest) result := by
  have prelude := prelude_of_yields reads lists cleans
  have writes := releases.areWrites
  have counts := countP_deletes_of_prelude reads lists cleans writes
  -- Of all exchanges, only the one listing is about bindings.
  have among {y : Exchange} (here : y ∈ x :: (listed ++ gone) ++ rest) {space : Option String}
      {wanted : Selector} (asks : y.request = .bindings (.list space wanted)) : y ∈ listed := by
    rcases List.mem_append.mp here with there | there
    · rcases List.mem_cons.mp there with rfl | there
      · cases (Exchange.Tells.request reads).symm.trans asks
      · rcases List.mem_append.mp there with there | there
        · exact there
        · rcases yields_cleanup cleans with ⟨_, z, rfl, deletes⟩ | ⟨_, rfl, _⟩
          · obtain rfl := List.mem_singleton.mp there
            cases deletes.request.symm.trans asks
          · contradiction
    · obtain ⟨o, other⟩ := writes y there
      cases other.symm.trans asks
  exact {
    deletes := fun held _ => by rw [counts, if_pos held]
    spares := fun free => by rw [counts, if_neg (by simp [free])]
    stops := by
      intro y here space wanted f fails
      rcases yields_holders lists with ⟨_, z, rfl, tells⟩ | ⟨_, rfl, _⟩
      · obtain rfl := List.mem_singleton.mp (among here fails.request)
        cases tells.request.symm.trans fails.request
        cases tells.answer_unique fails
      · exact absurd (among here fails.request) List.not_mem_nil
    secret := by
      rw [lifts_iff prelude releases, hasGuard_keeping_secret, ← prelude.cleans_iff writes, isCleared]
      cases t.metadata.hasGuard secretGuard <;> simp
    bindings := by
      have unblocked := unblocked_iff lists
      rw [lifts_iff prelude releases, hasGuard_keeping_bindings]
      constructor
      · rintro ⟨held, open'⟩
        obtain ⟨y, here, told⟩ := unblocked.mp ⟨held, by simpa [held] using open'⟩
        exact ⟨y, List.mem_append_left _ (List.mem_cons_of_mem _ (List.mem_append_left _ here)), told⟩
      · rintro ⟨y, here, space, wanted, told⟩
        obtain ⟨held, open'⟩ := unblocked.mpr ⟨y, among here told.request, space, wanted, told⟩
        exact ⟨held, by rw [open', Bool.and_false]⟩ }

/-- If the listing fails, then a pass ends there. -/
theorem gated_of_unlisted {listed : List Exchange} {f : Failure} (reads : Reads k t x)
    (unlisted : (holders t).Yields listed (.error f)) : Gated t (x :: listed) (.error f) := by
  obtain ⟨y, refusal, rfl, rfl, fails⟩ := refused_of_unlisted unlisted
  have reading : x.request = .tokens (.get k) := Exchange.Tells.request reads
  have listing := fails.request
  have spared : [x, y].countP (·.request.deletesRecord) = 0 := by
    simp [reading, listing, Cluster.Request.deletesRecord]
  have kept (guard : String) : ¬ Lifts t guard [x, y] := by
    simp [Lifts, reading, listing, Cluster.Request.withdraws]
  exact {
    deletes := fun _ fine => absurd (fails.fails.mpr rfl) (fine y (by simp) _ _ listing)
    spares := fun _ => spared
    stops := by
      intro z here space wanted g told
      rcases List.mem_pair.mp here with rfl | rfl
      · cases reading.symm.trans told.request
      · cases listing.symm.trans told.request
        rw [Except.error.inj (fails.answer_unique told)]
        exact ⟨rfl, spared, kept⟩
    secret := by
      refine iff_of_false (kept _) ?_
      rintro ⟨z, here, owner, told⟩
      rcases List.mem_pair.mp here with rfl | rfl
      · cases reading.symm.trans told.request
      · cases listing.symm.trans told.request
    bindings := by
      refine iff_of_false (kept _) ?_
      rintro ⟨z, here, space, wanted, told⟩
      rcases List.mem_pair.mp here with rfl | rfl
      · cases reading.symm.trans told.request
      · cases listing.symm.trans told.request
        cases fails.answer_unique told }

/-- Whatever happens in between, each guard of a token whose deletion is requested goes by its own gate,
and no gate is passed by unless the bindings cannot be listed. -/
theorem gated_of_deleting {comes : Nat → Between} {g : Ground}
    (begins : ((d.pass k).play comes 0 g).1 = x :: rest) (reads : Reads k t x)
    (deleting : t.isDeleting = true) : Gated t (x :: rest) ((d.pass k).play comes 0 g).2 := by
  have ended := d.ended_of_play k g comes
  rw [begins] at ended
  have same {u : AccessToken} (again : Reads k u x) : u = t :=
    Option.some.inj (Except.ok.inj (again.answer_unique reads))
  generalize ((d.pass k).play comes 0 g).2 = result at ended ⊢
  generalize whole : x :: rest = past at ended
  cases ended with
  | unread fails =>
    obtain ⟨rfl, _⟩ := List.cons.inj whole
    cases fails.answer_unique reads
  | absent misses =>
    obtain ⟨rfl, _⟩ := List.cons.inj whole
    cases misses.answer_unique reads
  | unput again alive _ _ =>
    obtain ⟨rfl, _⟩ := List.cons.inj whole
    rw [same again, deleting] at alive
    contradiction
  | worked worksOn _ =>
    obtain ⟨alive, y, others, rfl, again⟩ := worksOn.front
    obtain ⟨rfl, _⟩ := List.cons.inj whole
    rw [same again, deleting] at alive
    contradiction
  | letGo again _ goes =>
    obtain ⟨rfl, rfl⟩ := List.cons.inj whole
    obtain rfl := same again
    cases goes with
    | unlisted fails => exact gated_of_unlisted reads fails
    | @listed listed gone writes linked outcome _ lists cleans releases =>
      have shape : x :: (listed ++ (gone ++ writes)) = x :: (listed ++ gone) ++ writes := by simp
      rw [shape]
      exact gated_of_listed reads lists cleans releases

/-- A token that is stored is read unless that fails. -/
theorem reads_of_stored (asks : x.request = .tokens (.get k)) (fine : ¬ x.Fails)
    (stored : x.cluster.tokens.get? k = some t) : Reads k t x := by
  rcases Exchange.tokens_cases asks with fails | ⟨a, tells⟩
  · exact absurd fails fine
  · have found : x.cluster.tokens.get? k = a := Except.ok.inj (Prod.mk.inj tells.tokens).1
    obtain rfl : some t = a := stored.symm.trans found
    exact tells

/-- The record cannot be deleted: its guard stays, and the one for bindings is lifted. -/
theorem gated_of_deleting_sealed : ∃ x rest t, sealedPlay.1 = x :: rest ∧ Reads leavingToken.key t x ∧
    t.isDeleting = true ∧ Lifts t bindingsGuard (x :: rest) ∧ ¬ Lifts t secretGuard (x :: rest) ∧
    (x :: rest).countP (·.request.deletesRecord) = 1 ∧ Gated t (x :: rest) sealedPlay.2 := by
  obtain ⟨x, rest, begins, asks, fine, present, facts, counts⟩ : ∃ x rest,
      sealedPlay.1 = x :: rest ∧ x.request = .tokens (.get leavingToken.key) ∧ ¬ x.Fails ∧
      (x.cluster.tokens.get? leavingToken.key).isSome = true ∧
      (∀ t ∈ x.cluster.tokens.get? leavingToken.key, t.isDeleting = true ∧
        Lifts t bindingsGuard (x :: rest) ∧ ¬ Lifts t secretGuard (x :: rest)) ∧
      (x :: rest).countP (·.request.deletesRecord) = 1 :=
    ⟨_, _, rfl, rfl, by decide +kernel, by decide +kernel, by decide +kernel, by decide +kernel⟩
  obtain ⟨t, stored⟩ := Option.isSome_iff_exists.mp present
  obtain ⟨deleting, lifted, held⟩ := facts t stored
  have reads := reads_of_stored asks fine stored
  exact ⟨x, rest, t, begins, reads, deleting, lifted, held, counts,
    gated_of_deleting begins reads deleting⟩

/-- The bindings are out of reach when they are listed, and nobody else asks for anything. -/
def hiddenBindings (n : Nat) : Between :=
  ⟨[], 5, { Chance.quiet with refusal := if n = 1 then some (.unavailable "out of reach") else none }⟩

/-- The pass over a token with both guards there. -/
def hiddenPlay : List Exchange × Except Failure Action :=
  (linkingDesk.pass leavingToken.key).play hiddenBindings 0 leavingGround

/-- A pass has read a token with a guarded record whose deletion is requested, and has not asked for
the record to be deleted. -/
theorem exists_uncleaned_hidden : ∃ x rest t, hiddenPlay.1 = x :: rest ∧ Reads leavingToken.key t x ∧
    t.isDeleting = true ∧ t.metadata.hasGuard secretGuard = true ∧
    (x :: rest).countP (·.request.deletesRecord) = 0 ∧ ¬ Lifts t secretGuard (x :: rest) := by
  obtain ⟨x, rest, begins, asks, fine, present, facts, counts⟩ : ∃ x rest,
      hiddenPlay.1 = x :: rest ∧ x.request = .tokens (.get leavingToken.key) ∧ ¬ x.Fails ∧
      (x.cluster.tokens.get? leavingToken.key).isSome = true ∧
      (∀ t ∈ x.cluster.tokens.get? leavingToken.key, t.isDeleting = true ∧
        t.metadata.hasGuard secretGuard = true ∧ ¬ Lifts t secretGuard (x :: rest)) ∧
      (x :: rest).countP (·.request.deletesRecord) = 0 :=
    ⟨_, _, rfl, rfl, by decide +kernel, by decide +kernel, by decide +kernel, by decide +kernel⟩
  obtain ⟨t, stored⟩ := Option.isSome_iff_exists.mp present
  obtain ⟨deleting, guarded, held⟩ := facts t stored
  exact ⟨x, rest, t, begins, reads_of_stored asks fine stored, deleting, guarded, counts, held⟩

end TokenDesk

end TokenSteward
