import TokenSteward.Proofs.Cluster.Lifetimes
import TokenSteward.Proofs.Cluster.Listing
import TokenSteward.Proofs.Passage.Binding
import TokenSteward.Proofs.Traffic.Basic

/-! # The stages of linking a binding

As long as providers find no token for a binding, its passes go through three stages. First the
binding has no token that is known to stay. A pass that makes a token owes the binding the link to it
until the label is written; that write is the only one that it asks for then. Once the link is
written, all later passes find the token that it names, and make none.
-/

namespace TokenSteward

open TokenSteward.Cluster TokenSteward.Resource TokenSteward.Provider Pass

/-- The link of the binding at a key, if a binding is stored there. -/
def Cluster.linkAt? (c : Cluster) (k : Key) : Option (Option String) :=
  (c.bindings.get? k).map Binding.linkedToken?

/-- The binding at a key stays with the link that it has, and no token is removed. -/
def Cluster.Keeps (k : Key) (c c' : Cluster) : Prop :=
  (c.linkAt? k ≠ none → c'.linkAt? k = c.linkAt? k) ∧
    ∀ t ∈ c.tokens.objects.values, (c'.tokens.get? t.key).isSome

instance (k : Key) (c c' : Cluster) : Decidable (c.Keeps k c') :=
  inferInstanceAs (Decidable (_ ∧ _))

/-- A provider that is asked for a token by this request finds none. -/
def Chance.Misses (x : Chance) : Request → Prop
  | .provider s (.lookup b) => (match x.word s (.lookup b) with
      | .ok none => true
      | _ => false) = true
  | _ => True

instance (x : Chance) (r : Request) : Decidable (x.Misses r) := by
  unfold Chance.Misses
  split <;> infer_instance

namespace Linking

/-- How far the linking of a binding has come: it is sought after with a copy of the binding or
without one, a token was made for the copy but not linked yet, or the link is written. -/
inductive Stage where
  | seeking (read : Option Binding)
  | owing (b : Binding) (name : String)
  | linked (name : String)

namespace Stage

/-- No link is owed. -/
def Even : Stage → Prop
  | .owing _ _ => False
  | _ => True

/-- How many tokens a stage tells of that were made for the binding. -/
def made : Stage → Nat
  | .seeking _ => 0
  | .owing _ _ | .linked _ => 1

/-- What is true of the cluster at a stage. -/
def Fits (k : Key) (c : Cluster) : Stage → Prop
  | .seeking none => True
  | .seeking (some b) => b.key = k ∧ b.isDeleting = false ∧ c.bindings.Snapshot b ∧
      c.linkAt? k = some (Binding.linkedToken? b)
  | .owing b name => b.key = k ∧ b.isDeleting = false ∧ c.bindings.Snapshot b ∧
      name ≠ "" ∧ (c.tokens.get? ⟨k.space, name⟩).isSome
  | .linked name => c.linkAt? k = some (some name) ∧ (c.tokens.get? ⟨k.space, name⟩).isSome

/-- What passes over a binding may ask for at a stage. -/
inductive Allows (k : Key) : Stage → Request → Prop where
  | read {stage : Stage} (even : stage.Even) : Allows k stage (.bindings (.get k))
  | look {stage : Stage} (even : stage.Even) (j : Key) : Allows k stage (.tokens (.get j))
  | search {stage : Stage} (even : stage.Even) (s : Service) (b : Binding) :
      Allows k stage (.provider s (.lookup b))
  | make (b : Binding) (s : Service) :
      Allows k (.seeking (some b)) (.tokens (.create (BindingDesk.freshToken b s)))
  | link (b : Binding) (name : String) :
      Allows k (.owing b name) (.bindings (.update (BindingDesk.labelled b name)))
  | restate {stage : Stage} (even : stage.Even) (o : Binding) :
      Allows k stage (.bindings (.updateStatus o))

/-- The stage after a binding was read. -/
def reads (b : Binding) : Stage → Stage
  | .seeking _ => .seeking (if b.isDeleting then none else some b)
  | stage => stage

/-- The stage after a token was made. A label that named it before it was there is not written
again. -/
def makes (name : String) : Stage → Stage
  | .seeking (some b) =>
    if Binding.linkedToken? b = some name then .linked name else .owing b name
  | stage => stage

/-- The stage after a label was written or was not. -/
def writes (done : Bool) : Stage → Stage
  | .owing _ name => if done then .linked name else .seeking none
  | stage => stage

/-- The stage after an answer. -/
def next (stage : Stage) : (r : Request) → r.Answer → Stage
  | .bindings (.get _), .ok (some b) => stage.reads b
  | .tokens (.create _), .ok t => stage.makes t.metadata.name
  | .bindings (.update _), .ok _ => stage.writes true
  | .bindings (.update _), .error _ => stage.writes false
  | _, _ => stage

variable {k : Key} {c c' : Cluster} {stage : Stage}

/-- What is true at a stage stays true while links are kept and no token is removed. -/
theorem Fits.kept (fits : stage.Fits k c) (sound : c.Sound) (keeps : c.Keeps k c')
    (change : Store.Change c.bindings c'.bindings) : stage.Fits k c' := by
  have stays {name : String} (stored : (c.tokens.get? ⟨k.space, name⟩).isSome) :
      (c'.tokens.get? ⟨k.space, name⟩).isSome := by
    obtain ⟨t, found⟩ := Option.isSome_iff_exists.mp stored
    have key : t.key = ⟨k.space, name⟩ := sound.tokens.filed found
    exact key ▸ keeps.2 t (Table.mem_values.mpr ⟨_, found⟩)
  match stage, fits with
  | .seeking none, _ => trivial
  | .seeking (some b), ⟨key, alive, copy, link⟩ =>
    exact ⟨key, alive, copy.change change, (keeps.1 (by simp [link])).trans link⟩
  | .owing b name, ⟨key, alive, copy, named, stored⟩ =>
    exact ⟨key, alive, copy.change change, named, stays stored⟩
  | .linked name, ⟨link, stored⟩ =>
    exact ⟨(keeps.1 (by simp [link])).trans link, stays stored⟩

end Stage

theorem keeps_refl (k : Key) {c : Cluster} (sound : c.Sound) : c.Keeps k c := by
  refine ⟨fun _ => rfl, fun t present => ?_⟩
  obtain ⟨j, found⟩ := Table.mem_values.mp present
  have stored : c.tokens.get? j = some t := found
  rw [sound.tokens.filed stored, stored]
  rfl

variable {k : Key} {c : Cluster}

/-- Creating a token removes none. -/
theorem keeps_create (sound : c.Sound) (x : Chance) (o : AccessToken) :
    c.Keeps k (c.answer x (.tokens (.create o))).2 := by
  refine ⟨fun _ => ?_, fun t present => ?_⟩
  · rw [linkAt?, bindings_answer _ _ _ (by simp)]
    rfl
  · obtain ⟨j, found⟩ := Table.mem_values.mp present
    have stored : c.tokens.get? j = some t := found
    rw [← sound.tokens.filed stored] at stored
    rcases c.answer_tokens_cases x (.create o) with ⟨f, failed⟩ | ⟨_, served⟩
    · rw [failed, stored]
      rfl
    · rw [served]
      rcases c.tokens.create_cases c.now o with ⟨f, failed⟩ | ⟨name, s', made, absent, wrote⟩
      · simp only [Store.perform, failed, stored]
        rfl
      · have other : t.key ≠ (c.tokens.born c.now o name).key := by
          intro same
          rw [← same, stored] at absent
          contradiction
        simp only [Store.perform, made, wrote.get?_of_ne other, stored]
        rfl

/-- Writing the status of a binding keeps its link. -/
theorem keeps_updateStatus (sound : c.Sound) (x : Chance) (o : Binding) :
    c.Keeps k (c.answer x (.bindings (.updateStatus o))).2 := by
  refine ⟨fun _ => ?_, fun t present => ?_⟩
  · rcases c.answer_bindings_cases x (.updateStatus o) with ⟨f, failed⟩ | ⟨_, served⟩
    · rw [failed]
    · rw [linkAt?, served]
      have fate := sound.bindings.fate c.now k (.updateStatus o)
      generalize (c.bindings.perform c.now (.updateStatus o)).2.get? k = found at fate ⊢
      cases fate with
      | same r => rfl
      | restated o stored key found standing differs =>
        rw [linkAt?, found]
        rfl
  · rw [tokens_answer _ _ _ (by simp)]
    exact (keeps_refl k sound).2 t present

/-- A token that is made for a binding is new, and stored in the binding's namespace under a name. -/
theorem stored_of_create {b : Binding} {s : Service} {x : Chance} {t : AccessToken}
    (made : (c.answer x (.tokens (.create (BindingDesk.freshToken b s)))).1 = .ok t) :
    t.metadata.name ≠ "" ∧
      ((c.answer x (.tokens (.create (BindingDesk.freshToken b s)))).2.tokens.get?
        ⟨b.metadata.space, t.metadata.name⟩).isSome := by
  rcases c.answer_tokens_cases x (.create (BindingDesk.freshToken b s)) with
    ⟨f, failed⟩ | ⟨answered, served⟩
  · rw [failed] at made
    contradiction
  · rw [answered] at made
    rw [served]
    simp only [Store.perform] at made ⊢
    rcases c.tokens.create_cases c.now (BindingDesk.freshToken b s) with
      ⟨f, failed⟩ | ⟨name, s', done, _, wrote⟩
    · rw [failed] at made
      contradiction
    · rw [done] at made ⊢
      obtain rfl := Except.ok.inj made
      have stored : s'.get? ⟨b.metadata.space, name⟩ = some _ := wrote.get?_self
      exact ⟨(Store.key_of_create done).2, Option.isSome_iff_exists.mpr ⟨_, stored⟩⟩

/-- A label that is written on top of the copy of a binding is the binding's link then. -/
theorem link_of_label {b : Binding} {name : String} {x : Chance} {w : Binding}
    (copy : c.bindings.Snapshot b) (alive : b.isDeleting = false) (named : name ≠ "")
    (written : (c.answer x (.bindings (.update (BindingDesk.labelled b name)))).1 = .ok w) :
    (c.answer x (.bindings (.update (BindingDesk.labelled b name)))).2.linkAt? b.key =
      some (some name) := by
  rcases c.answer_bindings_cases x (.update (BindingDesk.labelled b name)) with
    ⟨f, failed⟩ | ⟨answered, served⟩
  · rw [failed] at written
    contradiction
  · rw [answered] at written
    have done : c.bindings.update (BindingDesk.labelled b name) = (.ok w,
        (c.answer x (.bindings (.update (BindingDesk.labelled b name)))).2.bindings) :=
      Prod.ext written served.symm
    obtain ⟨_, ⟨deleting, _⟩ | ⟨_, _, stored⟩⟩ :=
      copy.update_cases (o := BindingDesk.labelled b name) rfl rfl rfl done
    · rw [alive] at deleting
      contradiction
    · have same : (c.bindings.write ((BindingDesk.labelled b name).withVersion
          (c.bindings.version + 1))).get? b.key = some _ := Store.get?_write_self _ rfl
      rw [linkAt?, stored, same]
      simp [Binding.linkedToken?, Metadata.label?, BindingDesk.labelled, Object.withVersion,
        Metadata.setLabel, named]

/-- Each answer to a request that is allowed at a stage leads to a stage that fits again. -/
theorem Stage.Fits.answered {stage : Stage} (fits : stage.Fits k c) (sound : c.Sound) (x : Chance)
    {r : Request} (allows : stage.Allows k r) :
    (stage.next r (c.answer x r).1).Fits k (c.answer x r).2 := by
  have change := sound.change_bindings x r
  cases allows with
  | read even =>
    rw [answer_read_binding]
    cases said : (c.answer x (.bindings (.get k))).1 with
    | error f => exact fits
    | ok found =>
      cases found with
      | none => exact fits
      | some b =>
        cases stage with
        | seeking read =>
          have stored := binding_of_read said.symm
          simp only [Stage.next, Stage.reads]
          split
          · trivial
          · next alive =>
            exact ⟨sound.bindings.filed stored, by simpa using alive,
              sound.bindings.snapshot stored, by rw [linkAt?, stored]; rfl⟩
        | owing b name => exact even.elim
        | linked name => exact fits
  | look even j =>
    rw [answer_read_token]
    exact fits
  | search even s b => exact fits
  | make b s =>
    obtain ⟨key, alive, copy, link⟩ := fits.kept sound (keeps_create sound x _) change
    cases made : (c.answer x (.tokens (.create (BindingDesk.freshToken b s)))).1 with
    | error f => exact ⟨key, alive, copy, link⟩
    | ok t =>
      obtain ⟨named, stored⟩ := stored_of_create made
      have space : b.metadata.space = k.space := by rw [← key]; rfl
      rw [space] at stored
      simp only [Stage.next, Stage.makes]
      split
      · next same => exact ⟨link.trans (congrArg some same), stored⟩
      · exact ⟨key, alive, copy, named, stored⟩
  | link b name =>
    obtain ⟨key, alive, copy, named, stored⟩ := fits
    cases written : (c.answer x (.bindings (.update (BindingDesk.labelled b name)))).1 with
    | error f => trivial
    | ok w =>
      refine ⟨key ▸ link_of_label copy alive named written, ?_⟩
      rw [tokens_answer _ _ _ (by simp)]
      exact stored
  | restate even o =>
    exact fits.kept sound (keeps_updateStatus sound x o) change

/-- A token was made. -/
def tokenMade : (r : Request) → r.Answer → Bool
  | .tokens (.create _), .ok _ => true
  | _, _ => false

/-- The write of a label has failed. -/
def labelLost : (r : Request) → r.Answer → Bool
  | .bindings (.update _), .error _ => true
  | _, _ => false

/-- A token that is made shows in the next stage, and none gets out of sight unless the write of its
label fails. -/
theorem Stage.Allows.made_next {stage : Stage} {r : Request} (allows : stage.Allows k r)
    (answer : r.Answer) : (tokenMade r answer).toNat + stage.made ≤
      (labelLost r answer).toNat + (stage.next r answer).made := by
  cases allows with
  | read even =>
    rcases answer with f | none | b
    · exact Nat.le_refl _
    · exact Nat.le_refl _
    · cases stage <;> exact Nat.le_refl _
  | look even j => cases answer <;> exact Nat.le_refl _
  | search even s b => cases answer <;> exact Nat.le_refl _
  | make b s =>
    cases answer with
    | error f => exact Nat.le_refl _
    | ok t =>
      simp only [next, makes]
      split <;> exact Nat.le_refl _
  | link b name => cases answer <;> exact Nat.le_refl _
  | restate even o => cases answer <;> exact Nat.le_refl _

/-! ## What passes ask for -/

/-- At each stage a pass asks only for what is allowed then. It is answered by a cluster that the
stage fits, and no provider finds a token. -/
def stages (k : Key) : Discipline Stage where
  allows stage r := stage.Allows k r
  leads stage r answer later := ∃ (c : Cluster) (x : Chance), c.Sound ∧ stage.Fits k c ∧ x.Misses r ∧
    answer = (c.answer x r).1 ∧ later = stage.next r answer

/-- A stage at which a binding was read: it is the copy that is gone by, or it has the link. -/
def Stage.HasRead (k : Key) (b : Binding) : Stage → Prop
  | .seeking read => read = some b
  | .linked name => b.key = k ∧ Binding.linkedToken? b = some name
  | .owing _ _ => False

theorem Stage.HasRead.even {b : Binding} {stage : Stage} (read : stage.HasRead k b) : stage.Even := by
  cases stage with
  | owing b name => exact read.elim
  | _ => trivial

/-- The link of a binding names the token, or is owed. -/
def Stage.Resolves (b : Binding) : Stage → Except Failure BindingDesk.Resolution → Prop
  | stage, .ok (.linked t) =>
    if Binding.linkedToken? b = some t.metadata.name then stage.Even
    else stage = .owing b t.metadata.name
  | stage, _ => stage.Even

/-- What was found by the link of a binding. -/
def Stage.Looks (b : Binding) : Stage → Except Failure (Option AccessToken) → Prop
  | stage, .ok (some t) => Binding.linkedToken? b = some t.metadata.name ∧ stage.Even
  | stage, .ok none => stage = .seeking (some b)
  | stage, .error _ => stage.Even

open BindingDesk

variable {b : Binding} {stage : Stage}

theorem obeys_currentToken (read : stage.HasRead k b) :
    (currentToken b).Obeys (stages k) (Stage.Looks b) stage := by
  unfold currentToken
  cases link : Binding.linkedKey? b with
  | none =>
    cases stage with
    | seeking copy => exact congrArg Stage.seeking read
    | owing b name => exact read.elim
    | linked name => simp [Binding.linkedKey?, read.2] at link
  | some key =>
    obtain ⟨name, label, rfl⟩ := Option.map_eq_some_iff.mp link
    refine obeys_tokens.mpr ⟨.look read.even _, ?_⟩
    rintro answer later ⟨c, x, sound, fits, -, answered, same⟩
    obtain rfl : stage = later := same.symm
    cases answer with
    | error f => exact read.even
    | ok found =>
      have stored := token_of_read answered
      cases found with
      | none =>
        cases stage with
        | seeking copy => exact congrArg Stage.seeking read
        | owing b name => exact read.elim
        | linked other =>
          obtain ⟨rfl, same⟩ := read
          obtain rfl := Option.some.inj (label.symm.trans same)
          have present := fits.2
          rw [show (⟨b.key.space, name⟩ : Key) = ⟨b.metadata.space, name⟩ from rfl, stored] at present
          contradiction
      | some t =>
        have key : t.key = ⟨b.metadata.space, name⟩ := sound.tokens.filed stored
        exact ⟨label.trans (congrArg (some ·.name) key.symm), read.even⟩

theorem obeys_resolve (d : BindingDesk) (read : stage.HasRead k b) :
    (d.resolve b).Obeys (stages k) (Stage.Resolves b) stage := by
  unfold resolve
  split
  · exact read.even
  · next s _ =>
    refine obeys_bind.mpr ((obeys_currentToken read).mono fun later found looks => ?_)
    match found, looks with
    | .error f, even => exact even
    | .ok (some t), ⟨label, even⟩ =>
      change if _ then _ else _
      rwa [if_pos label]
    | .ok none, seeking =>
      obtain rfl : later = .seeking (some b) := seeking
      have even : (Stage.seeking (some b)).Even := trivial
      refine obeys_bind.mpr (obeys_attempt.mpr ⟨.search even s b, ?_⟩)
      rintro answer _ ⟨c, x, -, -, misses, rfl, rfl⟩
      simp only [Chance.Misses] at misses
      split at misses
      · next none =>
        rw [show (c.answer x (.provider s (.lookup b))).1 = .ok Option.none from none]
        refine obeys_bind.mpr (obeys_tokens.mpr ⟨.make b s, ?_⟩)
        rintro answer _ ⟨_, _, _, _, _, _, rfl⟩
        cases answer with
        | error f => trivial
        | ok t =>
          change Stage.Resolves b (Stage.makes t.metadata.name (.seeking (some b))) (.ok (.linked t))
          simp only [Stage.Resolves, Stage.makes]
          split
          · trivial
          · rfl
      · contradiction

/-- A pass has written the link that it owes, or has lost it. -/
theorem obeys_label {t : AccessToken} (found : stage.Resolves b (.ok (.linked t))) :
    (label b t.metadata.name).Obeys (stages k) (fun later _ => later.Even) stage := by
  unfold label
  simp only [Stage.Resolves] at found
  split at found
  · next same =>
    rw [if_pos same]
    exact found
  · next other =>
    obtain rfl := found
    rw [if_neg other]
    refine obeys_bindings.mpr ⟨.link b _, ?_⟩
    rintro answer _ ⟨_, _, _, _, _, _, rfl⟩
    cases answer <;> trivial

theorem obeys_write (w : Binding) (status : BindingStatus) (even : stage.Even) :
    (if status ≠ w.status then
      (Pass.bindings (.updateStatus { w with status := status }) >>= fun _ => pure Action.await)
      else pure .await).Obeys (stages k) (fun later _ => later.Even) stage := by
  split
  · refine obeys_bind.mpr (obeys_bindings.mpr ⟨.restate even _, ?_⟩)
    rintro answer _ ⟨_, _, _, _, _, _, rfl⟩
    cases answer <;> exact even
  · exact even

/-- A pass over a binding goes by the stages, and owes no link at its end. -/
theorem obeys_pass (d : BindingDesk) (begins : stage = .seeking none ∨ ∃ name, stage = .linked name) :
    (d.pass k).Obeys (stages k) (fun later _ => later.Even) stage := by
  have even : stage.Even := by
    rcases begins with rfl | ⟨name, rfl⟩ <;> trivial
  unfold BindingDesk.pass
  refine obeys_bind.mpr (obeys_bindings.mpr ⟨.read even, ?_⟩)
  rintro answer _ ⟨c, x, sound, fits, -, answered, rfl⟩
  rcases answer with f | _ | b
  · exact even
  · exact even
  · have stored := binding_of_read answered
    change Obeys (stages k) _ (stage.reads b) (if b.isDeleting = true then pure Action.await else _)
    split
    · rcases begins with rfl | ⟨name, rfl⟩ <;> trivial
    · next alive =>
      have read : (stage.reads b).HasRead k b := by
        rcases begins with rfl | ⟨name, rfl⟩
        · simp [Stage.reads, Stage.HasRead, alive]
        · refine ⟨sound.bindings.filed stored, ?_⟩
          have link := fits.1
          rw [linkAt?, stored] at link
          exact Option.some.inj link
      refine obeys_bind.mpr ((obeys_resolve d read).mono fun later resolution found => ?_)
      rcases resolution with f | t | ⟨reason, message⟩
      · exact found
      · change Obeys _ _ _ (label b t.metadata.name >>= _)
        refine obeys_bind.mpr ((obeys_label found).mono fun last written even => ?_)
        cases written with
        | error f => exact even
        | ok w => exact obeys_write w _ even
      · exact obeys_write b _ found

end Linking

end TokenSteward
