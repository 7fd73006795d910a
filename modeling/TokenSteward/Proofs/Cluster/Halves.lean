import TokenSteward.Proofs.Cluster.Lifetimes

/-! # Each write touches its own half

Clients send whole objects, and what is in them may be stale or made up. An update takes the
specification, the labels and the guards from the client, a write of a status takes the status, and a
request for deletion takes nothing but the key; all else is as the store has it. This holds of what is
stored and of what is told, also when an update lets the last guard go and so removes the object.
-/

namespace TokenSteward.Cluster

open TokenSteward.Resource

variable {σ τ : Type}

/-! ## Halves -/

/-- An object is what was sent in all that an update is for, and what was stored in all else. Of the
version nothing is said. -/
structure SpecHalf (stored sent o : Object σ τ) : Prop where
  key : o.key = stored.key
  spec : o.spec = sent.spec
  labels : o.metadata.labels = sent.metadata.labels
  guards : o.metadata.guards = sent.metadata.guards
  status : o.status = stored.status
  uid : o.metadata.uid = stored.metadata.uid
  generateName : o.metadata.generateName = stored.metadata.generateName
  created : o.metadata.created = stored.metadata.created
  deleted : o.metadata.deleted = stored.metadata.deleted

/-- An object has the status that was sent, and is what was stored but for its version. -/
structure StatusHalf (stored sent o : Object σ τ) : Prop where
  status : o.status = sent.status
  spec : o.spec = stored.spec
  metadata : { o.metadata with version := stored.metadata.version } = stored.metadata

/-- An object is what was stored but for its version and the request for its deletion, which was made
at an instant. -/
structure MarkHalf (stored : Object σ τ) (now : Timestamp) (o : Object σ τ) : Prop where
  deleted : o.metadata.deleted = some now
  spec : o.spec = stored.spec
  status : o.status = stored.status
  metadata : { o.metadata with
    version := stored.metadata.version, deleted := stored.metadata.deleted } = stored.metadata

namespace Store

variable {s s' : Store σ τ} {o sent stored a : Object σ τ} {k : Key} {now : Timestamp}

theorem specHalf_blended (key : sent.key = stored.key) (version : Nat) :
    SpecHalf stored sent ((blended stored sent).withVersion version) :=
  ⟨key, rfl, rfl, rfl, rfl, rfl, rfl, rfl, rfl⟩

theorem statusHalf_withVersion (version : Nat) :
    StatusHalf stored sent ({ stored with status := sent.status }.withVersion version) :=
  ⟨rfl, rfl, rfl⟩

theorem markHalf_marked (s : Store σ τ) : MarkHalf stored now (s.marked now stored) :=
  ⟨rfl, rfl, rfl, rfl⟩

/-! ## What becomes of a store -/

/-- An object was written under a key, with the next version. -/
structure Stores (s : Store σ τ) (k : Key) (o : Object σ τ) (s' : Store σ τ) : Prop where
  here : s'.get? k = some o
  numbered : o.metadata.version = s.version + 1
  told : s'.history = .applied o :: s.history

/-- What lay at a key was removed, and told as an object. -/
structure Drops (s : Store σ τ) (k : Key) (o : Object σ τ) (s' : Store σ τ) : Prop where
  gone : s'.get? k = none
  told : s'.history = .deleted o :: s.history

theorem stores_write (key : o.key = k) (numbered : o.metadata.version = s.version + 1) :
    s.Stores k o (s.write o) :=
  ⟨get?_write_self s key, numbered, rfl⟩

theorem drops_remove (s : Store σ τ) (k : Key) (o : Object σ τ) : s.Drops k o (s.remove k o) :=
  ⟨get?_remove_self s k o, rfl⟩

/-- What a successful update has done: it has stored the object that it answers, or removed it with its
last guard. -/
inductive Updated (s : Store σ τ) (sent a : Object σ τ) (s' : Store σ τ) : Prop where
  | stored (stored : Object σ τ) (found : s.get? sent.key = some stored)
      (half : SpecHalf stored sent a) (held : stored.isDeleting = true → sent.metadata.guards ≠ [])
      (stores : s.Stores sent.key a s')
  | removed (stored : Object σ τ) (found : s.get? sent.key = some stored)
      (half : SpecHalf stored sent a) (deleting : stored.isDeleting = true)
      (bare : sent.metadata.guards = []) (drops : s.Drops sent.key a s')

/-- What a successful write of a status has done: nothing if the status was there before. -/
inductive Restated (s : Store σ τ) (sent a : Object σ τ) (s' : Store σ τ) : Prop where
  | same (found : s.get? sent.key = some a) (status : a.status = sent.status) (left : s' = s)
  | stored (stored : Object σ τ) (found : s.get? sent.key = some stored)
      (differs : stored.status ≠ sent.status) (half : StatusHalf stored sent a)
      (stores : s.Stores sent.key a s')

/-- What a request for deletion has done to the object at its key: removed it, left it if its deletion
had been requested before, or marked it. -/
inductive Condemned (s : Store σ τ) (now : Timestamp) (k : Key) (s' : Store σ τ) : Prop where
  | removed (stored : Object σ τ) (found : s.get? k = some stored)
      (bare : stored.metadata.guards = []) (drops : s.Drops k stored s')
  | left (stored : Object σ τ) (found : s.get? k = some stored) (deleting : stored.isDeleting = true)
      (left : s' = s)
  | marked (stored a : Object σ τ) (found : s.get? k = some stored)
      (guarded : stored.metadata.guards ≠ []) (alive : stored.isDeleting = false)
      (half : MarkHalf stored now a) (stores : s.Stores k a s')

/-- There is an object to write to, and the write stands on its version. -/
def Takes (s : Store σ τ) (sent : Object σ τ) : Prop :=
  ∃ stored, s.get? sent.key = some stored ∧ StandsOn sent stored

theorem writable_eq_ok_iff :
    s.writable sent = .ok stored ↔ s.get? sent.key = some stored ∧ StandsOn sent stored := by
  rcases writable_cases s sent with ⟨f, failed⟩ | ⟨there, found, standing, ok⟩
  · rw [failed]
    refine ⟨(nomatch ·), fun ⟨found, standing⟩ => ?_⟩
    have fine : ¬ (sent.metadata.version ≠ 0 ∧ sent.metadata.version ≠ stored.metadata.version) := by
      simp only [StandsOn] at standing
      omega
    simp only [writable, found, conflict?, if_neg fine] at failed
    contradiction
  · rw [ok, found]
    constructor
    · rintro ⟨⟩
      exact ⟨rfl, standing⟩
    · rintro ⟨⟨⟩, -⟩
      rfl

/-! ## The three writes -/

/-- An update succeeds just if there is an object to write to, whose version it stands on. -/
theorem exists_update_iff : (∃ a, (s.update sent).1 = .ok a) ↔ s.Takes sent := by
  constructor
  · rintro ⟨a, success⟩
    rcases update_cases s sent with ⟨f, failed⟩ | ⟨stored, found, standing, -⟩
    · rw [failed] at success
      contradiction
    · exact ⟨stored, found, standing⟩
  · rintro ⟨stored, takes⟩
    simp only [update, writable_eq_ok_iff.mpr takes]
    split <;> exact ⟨_, rfl⟩

theorem exists_updateStatus_iff [DecidableEq τ] :
    (∃ a, (s.updateStatus sent).1 = .ok a) ↔ s.Takes sent := by
  constructor
  · rintro ⟨a, success⟩
    rcases updateStatus_cases s sent with ⟨f, failed⟩ | ⟨stored, found, standing, -⟩
    · rw [failed] at success
      contradiction
    · exact ⟨stored, found, standing⟩
  · rintro ⟨stored, takes⟩
    simp only [updateStatus, writable_eq_ok_iff.mpr takes]
    split <;> exact ⟨_, rfl⟩

/-- A request for deletion succeeds just if there is an object. -/
theorem delete_eq_ok_iff (now : Timestamp) :
    (s.delete now k).1 = .ok () ↔ ∃ stored, s.get? k = some stored := by
  cases found : s.get? k with
  | none => simp [delete, found]
  | some stored =>
    refine ⟨fun _ => ⟨stored, rfl⟩, fun _ => ?_⟩
    simp only [delete, found]
    split
    · rfl
    · split <;> rfl

/-- An update has its half from the client and the other half from the store, whatever the client has
sent for that one. -/
theorem Sound.updated (sound : s.Sound) (success : (s.update sent).1 = .ok a) :
    s.Updated sent a (s.update sent).2 := by
  rcases update_cases s sent with
    ⟨f, failed⟩ | ⟨stored, found, -, ⟨deleting, bare, gone⟩ | ⟨held, written⟩⟩
  · rw [failed] at success
    contradiction
  · rw [gone] at success ⊢
    obtain rfl := Except.ok.inj success
    have key : sent.key = stored.key := (sound.filed found).symm
    exact .removed stored found (specHalf_blended key _) deleting bare (drops_remove _ _ _)
  · rw [written] at success ⊢
    obtain rfl := Except.ok.inj success
    have key : sent.key = stored.key := (sound.filed found).symm
    exact .stored stored found (specHalf_blended key _) held (stores_write rfl rfl)

theorem Sound.restated [DecidableEq τ] (sound : s.Sound) (success : (s.updateStatus sent).1 = .ok a) :
    s.Restated sent a (s.updateStatus sent).2 := by
  rcases updateStatus_cases s sent with
    ⟨f, failed⟩ | ⟨stored, found, -, ⟨same, left⟩ | ⟨differs, written⟩⟩
  · rw [failed] at success
    contradiction
  · rw [left] at success ⊢
    obtain rfl := Except.ok.inj success
    exact .same found same rfl
  · rw [written] at success ⊢
    obtain rfl := Except.ok.inj success
    have key : stored.key = sent.key := sound.filed found
    exact .stored stored found differs (statusHalf_withVersion _) (stores_write key rfl)

theorem Sound.condemned (sound : s.Sound) (success : (s.delete now k).1 = .ok ()) :
    s.Condemned now k (s.delete now k).2 := by
  rcases delete_cases s now k with
    ⟨f, failed⟩ | ⟨stored, found, ⟨bare, gone⟩ | ⟨guarded, ⟨deleting, left⟩ | ⟨alive, written⟩⟩⟩
  · rw [failed] at success
    contradiction
  · rw [gone]
    exact .removed stored found bare (drops_remove _ _ _)
  · rw [left]
    exact .left stored found deleting rfl
  · rw [written]
    have key : stored.key = k := sound.filed found
    exact .marked stored _ found guarded alive (markHalf_marked s) (stores_write key rfl)

/-- Another request for a deletion changes nothing: the object has a guard left, or it would be gone. -/
theorem Sound.delete_of_isDeleting (sound : s.Sound) (found : s.get? k = some stored)
    (deleting : stored.isDeleting = true) (now : Timestamp) : s.delete now k = (.ok (), s) := by
  rcases delete_cases s now k with
    ⟨f, failed⟩ | ⟨there, present, ⟨bare, gone⟩ | ⟨guarded, ⟨_, left⟩ | ⟨alive, written⟩⟩⟩
  · have answered := (delete_eq_ok_iff now).mpr ⟨stored, found⟩
    rw [failed] at answered
    contradiction
  · obtain rfl := Option.some.inj (found.symm.trans present)
    exact absurd bare (sound.guarded found deleting)
  · exact left
  · obtain rfl := Option.some.inj (found.symm.trans present)
    rw [deleting] at alive
    contradiction

end Store

/-! ## All writes -/

/-- The key that an update, a write of a status or a request for deletion is about. -/
def StoreRequest.about? : StoreRequest σ τ → Option Key
  | .update o | .updateStatus o => some o.key
  | .delete k => some k
  | .get _ | .list _ _ | .create _ => none

namespace Store

variable [DecidableEq τ] {s : Store σ τ} {k : Key}

/-- A write touches no other key. -/
theorem Sound.get?_of_about (sound : s.Sound) {r : StoreRequest σ τ} {j : Key}
    (about : r.about? = some j) (other : k ≠ j) (now : Timestamp) :
    (s.perform now r).2.get? k = s.get? k := by
  have fate := sound.fate now k r
  generalize (s.perform now r).2.get? k = found at fate ⊢
  cases fate with
  | same r => rfl
  | created o name absent => contradiction
  | updated o stored key found standing held => exact absurd (key.symm.trans (Option.some.inj about)) other
  | ended o stored key found standing deleting bare =>
    exact absurd (key.symm.trans (Option.some.inj about)) other
  | restated o stored key found standing differs =>
    exact absurd (key.symm.trans (Option.some.inj about)) other
  | dropped stored found bare => exact absurd (Option.some.inj about) other
  | marked stored found guarded alive => exact absurd (Option.some.inj about) other

/-- Every write keeps to its half. An update and a write of a status succeed just if there is an object
whose version they stand on, and take what they are for from the client and all else from the store. A
request for deletion succeeds just if there is an object, touches its mark and its version or removes it,
and is made in vain a second time. No write touches another key, or anything if it fails. -/
structure KeepsHalves (s : Store σ τ) : Prop where
  update_iff : ∀ sent, (∃ a, (s.update sent).1 = .ok a) ↔ s.Takes sent
  updateStatus_iff : ∀ sent, (∃ a, (s.updateStatus sent).1 = .ok a) ↔ s.Takes sent
  delete_iff : ∀ now k, (s.delete now k).1 = .ok () ↔ ∃ stored, s.get? k = some stored
  updated : ∀ {sent a}, (s.update sent).1 = .ok a → s.Updated sent a (s.update sent).2
  restated : ∀ {sent a}, (s.updateStatus sent).1 = .ok a → s.Restated sent a (s.updateStatus sent).2
  condemned : ∀ {now k}, (s.delete now k).1 = .ok () → s.Condemned now k (s.delete now k).2
  repeated : ∀ {k stored}, s.get? k = some stored → stored.isDeleting = true → ∀ now,
    s.delete now k = (.ok (), s)
  elsewhere : ∀ {r j k}, r.about? = some j → k ≠ j → ∀ now, (s.perform now r).2.get? k = s.get? k
  failed : ∀ {now r f}, (s.perform now r).1 = .error f → (s.perform now r).2 = s

/-- Whatever a store was asked, and whatever its clients send next, every write keeps to its half. -/
theorem keepsHalves_ofCalls (kind : String) (draws : Draws) (calls : List (Call σ τ)) :
    (ofCalls kind draws calls).KeepsHalves :=
  have sound := sound_ofCalls kind draws calls
  { update_iff := fun _ => exists_update_iff
    updateStatus_iff := fun _ => exists_updateStatus_iff
    delete_iff := fun now _ => delete_eq_ok_iff now
    updated := sound.updated
    restated := sound.restated
    condemned := sound.condemned
    repeated := sound.delete_of_isDeleting
    elsewhere := sound.get?_of_about
    failed := perform_of_error }

/-- A token as a client sends it who makes up the status and all that the store decides on, and who
drops the guard. -/
def strayToken : AccessToken :=
  { guardedToken with
    metadata := { forgedToken.metadata with
      deleted := some (.ofSeconds 7)
      labels := Table.empty.insert "team" "x"
      guards := [] }
    status := { guardedToken.status with phase := .ready, message := "made up" } }

/-- What is made up is not stored, nor is it told when the token is removed with its last guard. -/
theorem keepsHalves_ofCalls_stray :
    let alive : Store TokenSpec TokenStatus :=
      ofCalls AccessToken.kind (.serial "t") [⟨.ofSeconds 0, .create guardedToken⟩]
    let doomed : Store TokenSpec TokenStatus :=
      ofCalls AccessToken.kind (.serial "t")
        [⟨.ofSeconds 0, .create guardedToken⟩, ⟨.ofSeconds 1, .delete guardedToken.key⟩]
    (∃ a, (alive.update strayToken).1 = .ok a ∧ a.metadata.deleted = none ∧
      a.status = guardedToken.status ∧ a.metadata.guards = [] ∧
      alive.Stores strayToken.key a (alive.update strayToken).2) ∧
    ∃ a, (doomed.update strayToken).1 = .ok a ∧ a.metadata.deleted = some (.ofSeconds 1) ∧
      a.status = guardedToken.status ∧ doomed.Drops strayToken.key a (doomed.update strayToken).2 := by
  intro alive doomed
  have lives : alive.KeepsHalves := keepsHalves_ofCalls _ _ _
  have dies : doomed.KeepsHalves := keepsHalves_ofCalls _ _ _
  have found : alive.get? strayToken.key =
      some (born (empty AccessToken.kind (.serial "t")) (.ofSeconds 0) guardedToken "git") := by decide +kernel
  have marked : doomed.get? strayToken.key = some doomedToken := by decide +kernel
  obtain ⟨a, success⟩ := (lives.update_iff strayToken).mpr ⟨_, found, .inl rfl⟩
  obtain ⟨b, removal⟩ := (dies.update_iff strayToken).mpr ⟨_, marked, .inl rfl⟩
  refine ⟨⟨a, success, ?_⟩, b, removal, ?_⟩
  · cases lives.updated success with
    | stored stored present half _ stores =>
      obtain rfl := Option.some.inj (found.symm.trans present)
      exact ⟨half.deleted, half.status, half.guards, stores⟩
    | removed stored present _ deleting _ _ =>
      obtain rfl := Option.some.inj (found.symm.trans present)
      contradiction
  · cases dies.updated removal with
    | stored stored present _ held _ =>
      obtain rfl := Option.some.inj (marked.symm.trans present)
      exact absurd rfl (held rfl)
    | removed stored present half _ _ drops =>
      obtain rfl := Option.some.inj (marked.symm.trans present)
      exact ⟨half.deleted, half.status, drops⟩

end Store

end TokenSteward.Cluster
