import TokenSteward.Proofs.Pass.Requests
import TokenSteward.Proofs.Pass.Steps

/-! # The steps of a pass over a binding

A pass reads the binding first and looks for its token. If that was found and the label names another
one, the label is written; the status is written last. Both writes are made from a copy of the
binding, so they are carried out only on top of that very copy.
-/

namespace TokenSteward.BindingDesk

open TokenSteward.Cluster TokenSteward.Resource Pass

/-- An exchange has read a binding at a key. -/
def Reads (k : Key) (b : Binding) (x : Exchange) : Prop :=
  x.Tells (.bindings (.get k)) (.ok (some b))

/-- The binding with its label naming a token. -/
def labelled (b : Binding) (name : String) : Binding :=
  { b with metadata := b.metadata.setLabel linkLabel name }

/-- The status of a binding that follows from looking for its token. -/
def statusOf (b : Binding) : Resolution → BindingStatus
  | .linked token => .linked token.metadata.name (token.status.phase == .ready)
  | .failed reason message => ⟨.error, some reason, message, b.status.linkedToken⟩

/-- The copy of a binding that its status is written on: as it was read if no token was found, else
as it is with the label. -/
inductive Linked (b : Binding) : Resolution → Binding → List Exchange → Prop where
  | failed (reason : BindingReason) (message : String) : Linked b (.failed reason message) b []
  | kept {token : AccessToken} (same : Binding.linkedToken? b = some token.metadata.name) :
      Linked b (.linked token) b []
  | written {token : AccessToken} {w : Binding} {x : Exchange}
      (other : Binding.linkedToken? b ≠ some token.metadata.name)
      (labels : x.Tells (.bindings (.update (labelled b token.metadata.name))) (.ok w)) :
      Linked b (.linked token) w [x]

/-- The steps of a pass over a binding. -/
inductive Step (d : BindingDesk) (k : Key) : List Exchange → Request → Prop where
  | read : Step d k [] (.bindings (.get k))
  | seek {b : Binding} {x : Exchange} {sought : List Exchange} {r : Request} (reads : Reads k b x)
      (alive : b.isDeleting = false) (reaches : (d.resolve b).Reaches sought r) :
      Step d k (x :: sought) r
  | label {b : Binding} {x : Exchange} {sought : List Exchange} {token : AccessToken}
      (reads : Reads k b x) (alive : b.isDeleting = false)
      (yields : (d.resolve b).Yields sought (.ok (.linked token)))
      (other : Binding.linkedToken? b ≠ some token.metadata.name) :
      Step d k (x :: sought) (.bindings (.update (labelled b token.metadata.name)))
  | status {b w : Binding} {x : Exchange} {sought labels : List Exchange} {resolution : Resolution}
      (reads : Reads k b x) (alive : b.isDeleting = false)
      (yields : (d.resolve b).Yields sought (.ok resolution)) (linked : Linked b resolution w labels)
      (differs : statusOf b resolution ≠ w.status) :
      Step d k (x :: (sought ++ labels))
        (.bindings (.updateStatus { w with status := statusOf b resolution }))

variable {d : BindingDesk} {k : Key} {b w : Binding} {past : List Exchange} {r : Request}

/-- The last step of a pass over a binding. -/
private theorem step_of_write {x : Exchange} {sought labels rest : List Exchange}
    {resolution : Resolution} {status : BindingStatus} (reads : Reads k b x)
    (alive : b.isDeleting = false) (yields : (d.resolve b).Yields sought (.ok resolution))
    (linked : Linked b resolution w labels) (same : status = statusOf b resolution)
    (reaches : (if status ≠ w.status then
      (Pass.bindings (.updateStatus { w with status := status }) >>= fun _ => pure Action.await)
      else pure .await).Reaches rest r) : d.Step k (x :: (sought ++ (labels ++ rest))) r := by
  subst same
  split at reaches
  · next differs =>
    rw [reaches_bind] at reaches
    rcases reaches with here | ⟨_, _, _, _, _, none⟩
    · obtain ⟨rfl, rfl⟩ := reaches_bindings.mp here
      rw [List.append_nil]
      exact .status reads alive yields linked differs
    · exact absurd none reaches_pure
  · exact absurd reaches reaches_pure

/-- A pass over a binding takes no other steps. -/
theorem step_of_reaches (reaches : (d.pass k).Reaches past r) : d.Step k past r := by
  unfold pass at reaches
  rw [reaches_bind] at reaches
  rcases reaches with here | ⟨first, rest, found, rfl, read, there⟩
  · obtain ⟨rfl, rfl⟩ := reaches_bindings.mp here
    exact .read
  · obtain ⟨x, rfl, reads⟩ := yields_bindings.mp read
    cases found with
    | none => exact absurd there reaches_pure
    | some b =>
      dsimp only at there
      split at there
      · exact absurd there reaches_pure
      · next notDeleting =>
        have alive : b.isDeleting = false := by simpa using notDeleting
        rw [reaches_bind] at there
        rcases there with here | ⟨sought, rest, resolution, rfl, yields, there⟩
        · exact .seek reads alive here
        · cases resolution with
          | failed reason message =>
            have step := step_of_write reads alive yields (.failed reason message) rfl there
            rwa [List.nil_append] at step
          | linked token =>
            change (label b token.metadata.name >>= _).Reaches rest r at there
            rw [reaches_bind] at there
            unfold label at there
            split at there
            · next same =>
              rcases there with none | ⟨_, rest, w, rfl, ⟨rfl, unchanged⟩, there⟩
              · exact absurd none reaches_pure
              · obtain rfl : w = b := Except.ok.inj unchanged
                have step := step_of_write reads alive yields (.kept same) rfl there
                rwa [List.nil_append] at step
            · next other =>
              rcases there with here | ⟨_, rest, w, rfl, labels, there⟩
              · obtain ⟨rfl, rfl⟩ := reaches_bindings.mp here
                rw [List.append_nil]
                exact .label reads alive yields other
              · obtain ⟨y, rfl, tells⟩ := yields_bindings.mp labels
                have step := step_of_write reads alive yields (.written other tells) rfl there
                exact step

/-- Before a step of a pass no status was written. -/
theorem Step.not_restated (step : d.Step k past r) :
    ∀ y ∈ past, ∀ o, y.request ≠ .bindings (.updateStatus o) := by
  have reading {b : Binding} {y : Exchange} (reads : Reads k b y) :
      ∀ o, y.request ≠ .bindings (.updateStatus o) := by
    intro o same
    cases reads.request.symm.trans same
  have seeking {y : Exchange} (seeks : Seeks y.request) :
      ∀ o, y.request ≠ .bindings (.updateStatus o) := fun o => seeks.ne_bindings _
  cases step with
  | read => simp
  | seek reads _ reaches =>
    have asked := ((d.asks_resolve _).reaches reaches).1
    exact List.forall_mem_cons.mpr ⟨reading reads, fun y here => seeking (asked y here)⟩
  | label reads _ yields _ =>
    have asked := (d.asks_resolve _).yields yields
    exact List.forall_mem_cons.mpr ⟨reading reads, fun y here => seeking (asked y here)⟩
  | status reads _ yields linked _ =>
    have asked := (d.asks_resolve _).yields yields
    refine List.forall_mem_cons.mpr ⟨reading reads, List.forall_mem_append.mpr
      ⟨fun y here => seeking (asked y here), ?_⟩⟩
    cases linked with
    | failed reason message => simp
    | kept same => simp
    | written other labels =>
      refine List.forall_mem_singleton.mpr fun o same => ?_
      cases labels.request.symm.trans same

/-! ## Copies -/

theorem Reads.stored {x : Exchange} (reads : Reads k b x) :
    x.cluster.bindings.get? k = some b ∧ x.left.bindings = x.cluster.bindings := by
  obtain ⟨found, same⟩ := Prod.mk.inj reads.bindings
  exact ⟨Except.ok.inj found, same.symm⟩

/-- A binding that was read stays a copy. -/
theorem Reads.copy {x : Exchange} (reads : Reads k b x) {c : Cluster} (later : x.left.Later c) :
    b.key = k ∧ c.bindings.Snapshot b := by
  obtain ⟨found, same⟩ := reads.stored
  refine ⟨x.sound.bindings.filed found, (x.sound.answer x.chance x.request).snapshot_later later ?_⟩
  change x.left.bindings.Snapshot b
  rw [same]
  exact x.sound.bindings.snapshot found

/-- A label is set on the very binding that was read. -/
theorem written_of_label {y : Exchange} {name : String} (copy : y.cluster.bindings.Snapshot b)
    (alive : b.isDeleting = false) (labels : y.Tells (.bindings (.update (labelled b name))) (.ok w)) :
    y.cluster.bindings.get? b.key = some b ∧
      w = (labelled b name).withVersion (y.cluster.bindings.version + 1) ∧
      y.left.bindings = y.cluster.bindings.write w := by
  obtain ⟨stored, ⟨deleting, _⟩ | ⟨_, rfl, written⟩⟩ :=
    copy.update_cases (o := labelled b name) rfl rfl rfl labels.bindings
  · rw [alive] at deleting
    contradiction
  · exact ⟨stored, rfl, written⟩

/-- The copy that a status is written on stays one, and has nothing but the label in which it may
differ from the binding that was read. -/
theorem Linked.copy {x : Exchange} {sought labels : List Exchange} {resolution : Resolution}
    (linked : Linked b resolution w labels) (reads : Reads k b x) (alive : b.isDeleting = false)
    (order : (x :: (sought ++ labels)).Pairwise Exchange.Before) {c : Cluster}
    (later : ∀ y ∈ x :: (sought ++ labels), y.left.Later c) : w.key = k ∧ c.bindings.Snapshot w ∧
      (w = b ∨ ∃ name version, w = (labelled b name).withVersion version) := by
  obtain ⟨key, copy⟩ := reads.copy (later x List.mem_cons_self)
  cases linked with
  | failed reason message => exact ⟨key, copy, .inl rfl⟩
  | kept same => exact ⟨key, copy, .inl rfl⟩
  | written other labels =>
    next token y =>
    have before : x.Before y := List.rel_of_pairwise_cons order (by simp)
    obtain ⟨_, copy⟩ := reads.copy before
    obtain ⟨_, same, written⟩ := written_of_label copy alive labels
    have filed : w.key = k := same ▸ key
    refine ⟨filed, ?_, .inr ⟨_, _, same⟩⟩
    have sound := y.sound.answer y.chance y.request
    apply sound.snapshot_later (later y (by simp))
    have stored : y.left.bindings.get? k = some w := by
      rw [written]
      exact Store.get?_write_self _ filed
    exact sound.bindings.snapshot stored

/-! ## Writes -/

/-- What an exchange of a pass over a binding does to the bindings. A write fails without effect, or
it is made on top of the very copy that the pass goes by, and changes nothing that it is not about. -/
inductive Timely (d : BindingDesk) (k : Key) (past : List Exchange) (x : Exchange) : Prop where
  | idle (other : ∀ o, x.request ≠ .bindings (.update o) ∧ x.request ≠ .bindings (.updateStatus o))
      (same : x.left.bindings = x.cluster.bindings)
  | rejected (fails : x.Fails) (same : x.left = x.cluster)
  | labelled {b : Binding} {y : Exchange} {sought : List Exchange} {token : AccessToken}
      (begins : past = y :: sought) (reads : Reads k b y)
      (yields : (d.resolve b).Yields sought (.ok (.linked token)))
      (stored : x.cluster.bindings.get? k = some b)
      (written : x.left.bindings = x.cluster.bindings.write
        ((labelled b token.metadata.name).withVersion (x.cluster.bindings.version + 1)))
  | restated {b w : Binding} {y : Exchange} {sought labels : List Exchange} {resolution : Resolution}
      (parts : past = y :: (sought ++ labels)) (reads : Reads k b y)
      (yields : (d.resolve b).Yields sought (.ok resolution))
      (same : w = b ∨ ∃ name version, w = (BindingDesk.labelled b name).withVersion version)
      (asks : x.request = .bindings (.updateStatus { w with status := statusOf b resolution }))
      (stored : x.cluster.bindings.get? k = some w)
      (written : x.left.bindings = x.cluster.bindings.write
        ({ w with status := statusOf b resolution }.withVersion (x.cluster.bindings.version + 1)))

/-- Each step of a pass over a binding is timely. -/
theorem timely_of_step {x : Exchange} (step : d.Step k past x.request)
    (order : (past ++ [x]).Pairwise Exchange.Before) : d.Timely k past x := by
  obtain ⟨ordered, _, later⟩ := List.pairwise_append.mp order
  replace later : ∀ y ∈ past, y.left.Later x.cluster := fun y here => later y here x (by simp)
  generalize asks : x.request = r at step
  cases step with
  | read =>
    have same : x.left.bindings = x.cluster.bindings := by
      rcases Exchange.bindings_cases asks with fails | ⟨a, tells⟩
      · rw [Exchange.left_of_fails fails]
      · exact (Prod.mk.inj tells.bindings).2.symm
    exact .idle (fun o => by simp [asks]) same
  | seek reads alive reaches =>
    have other : ∀ q, x.request ≠ .bindings q :=
      asks ▸ ((d.asks_resolve _).reaches reaches).2.ne_bindings
    exact .idle (fun o => ⟨other _, other _⟩) (Cluster.bindings_answer _ _ _ other)
  | label reads alive yields other =>
    rcases Exchange.bindings_cases asks with fails | ⟨w, tells⟩
    · exact .rejected fails (Exchange.left_of_fails fails)
    · obtain ⟨key, copy⟩ := reads.copy (later _ List.mem_cons_self)
      obtain ⟨stored, rfl, written⟩ := written_of_label copy alive tells
      exact .labelled rfl reads yields (key ▸ stored) written
  | status reads alive yields linked differs =>
    rcases Exchange.bindings_cases asks with fails | ⟨a, tells⟩
    · exact .rejected fails (Exchange.left_of_fails fails)
    · obtain ⟨key, copy, same⟩ := linked.copy reads alive ordered later
      obtain ⟨stored, _, written⟩ := copy.updateStatus_cases differs tells.bindings
      exact .restated rfl reads yields same asks (key ▸ stored) written

end TokenSteward.BindingDesk
