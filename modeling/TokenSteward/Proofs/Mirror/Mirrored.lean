import TokenSteward.Proofs.Cluster.Lifetimes
import TokenSteward.Proofs.Mirror.Heeded
import TokenSteward.Proofs.Rest.Settled
import TokenSteward.Proofs.Works.Reached

/-! # The status of a binding mirrors its token

Once an operator has started and nothing is on its way, the status of every binding that is linked to
a token says of it what is so, whatever has come before in whatever order, and whatever anyone has
asked the stores for. It takes that the listings of the bindings' controller are answered: the first
one, and those that its followers make. A pass may read a token, then the token changes and is told
of, and only then the pass writes the link by which it could have been found; but the link is a change
of the binding, so the binding is looked at again.
-/

namespace TokenSteward

open TokenSteward.Cluster TokenSteward.Resource TokenSteward.Provider TokenSteward.Controller

namespace Controller

instance decidableListsFor (i : Nat) (listed : List Nat) (id : Nat) : (t : Task) →
    Decidable (ListsFor i listed id t)
  | .resync j _ (some (.ask _ _)) => inferInstanceAs (Decidable (j = i ∧ id ∉ listed))
  | .watch j _ _ (some (.ask _ _)) => inferInstanceAs (Decidable (j = i))
  | .resync _ _ (some (.done _)) | .resync _ _ (some (.fail _)) | .resync _ _ none
  | .watch _ _ _ (some (.done _)) | .watch _ _ _ (some (.fail _)) | .watch _ _ _ none | .launch _
  | .supervise _ | .worker _ _ | .later _ _ _ _ | .getter _ | .got _ | .finished =>
    inferInstanceAs (Decidable False)

end Controller

namespace Works

/-- A turn is not one at which a listing is refused that a controller makes to start with, or that one
of its followers makes. -/
def Informs (i : Nat) (w : Works) : Turn → Prop
  | .task id refusal _ => ListsFor i w.listed id (w.task id) → refusal = none
  | _ => True

instance decidableInforms (i : Nat) (w : Works) : (t : Turn) → Decidable (Informs i w t)
  | .task _ _ _ => inferInstanceAs (Decidable (_ → _))
  | .late _ | .writes _ _ | .erases _ | .writer _ _ _ | .outside _ | .passes _ | .clock _ =>
    inferInstanceAs (Decidable True)

/-- The works are reached from others, and on the way a controller's first listing is answered and all
that its followers make. -/
inductive Informed (i : Nat) (first : Works) : Works → Prop where
  | start : Informed i first first
  | turn {w : Works} (informed : Informed i first w) (word : Word) (t : Turn) (informs : Informs i w t) :
      Informed i first (w.after word t)

variable {d : Desks} {first w : Works} {i : Nat}

theorem Informed.reached (informed : Informed i first w) : Reached i first w := by
  induction informed with
  | start => exact .start
  | turn _ word t informs ih =>
    refine ih.turn word t ?_
    cases t with
    | task id refusal outage => exact fun relies => informs relies.listsFor
    | _ => trivial

/-- Turns with one word of the providers lead on. -/
theorem Informed.run (informed : Informed i first w) (word : Word) (turns : List Turn)
    (along : Along word (Informs i) w turns) : Informed i first (Works.run word w turns) := by
  induction turns generalizing w with
  | nil => exact informed
  | cons t rest ih => exact ih (informed.turn word t along.1) along.2

/-- Whatever happens on the way, every binding is heeded. -/
theorem Informed.heeded (informed : Informed 1 first w) (begins : Running d.team first)
    (hears : Hears ⟨.tokens, .dependents⟩ 1 first.machine.core
      (Source.tokens.published first.machine.cluster)) {k : Key}
    (heeded : Heeded d first.machine.core first.listed k) : Heeded d w.machine.core w.listed k := by
  have member : d.team[1]? = some d.bindingController := rfl
  have follows {v : Works} (reached : Reached 1 first v) : Hears ⟨.tokens, .dependents⟩ 1 v.machine.core
      (Source.tokens.published v.machine.cluster) :=
    reached.hears begins member (List.mem_append_left _ (List.mem_singleton_self _)) hears
  induction informed with
  | start => exact heeded
  | @turn w informed word t informs ih =>
    have running := informed.reached.running begins
    have sound := running.kept.sound
    have watched : Watched d.bindingController 1 w.machine.core
        (Source.bindings.published w.machine.cluster) := running.watched member
    have hears := follows informed.reached
    cases t with
    | task id refusal outage =>
      exact ih.taskStep (Machine.taskStep_turn running.staffed running.flight.opened id _) running.flight
        running.manned sound running.old watched hears informs
    | late id =>
      simp only [Works.after]
      rcases late_cases running id .quiet with same | ⟨_, kept, step, _⟩
      · rwa [same]
      · have after := ih.taskStep step running.flight running.manned sound running.old watched hears
          fun _ => rfl
        have kept : listedAfter w.listed id (w.machine.core.task id) = w.listed := kept
        rwa [kept] at after
    | writer j refusal outage =>
      simp only [Works.after]
      split
      · exact ih.answer sound _ _ watched hears
      · exact ih
    | outside r => exact ih.answer sound .quiet r watched hears
    | clock now => exact ih.clock now
    | _ => exact ih

/-- When nothing is on its way, no follower of tokens is bound to bring up a binding. -/
theorem Quiet.not_relayed (quiet : w.Quiet) {id : Nat} {k : Key} :
    ¬ Relays i w.machine.core k (w.machine.core.task id) := by
  intro relays
  have still := quiet.task_isAtRest id
  generalize w.machine.core.task id = t at relays still
  cases relays with
  | unseen _ _ ahead about =>
    have early := Source.lt_published_of_told about
    simp only [Task.isAtRest, Bool.and_eq_true, decide_eq_true_eq] at still
    have seen : Source.tokens.published w.machine.core.cluster ≤ _ := still.2
    omega
  | gathers => contradiction

/-- Once nothing is on its way, a binding of a known provider that is linked to a token, and is not to
be deleted, says so: it names the token, tells of no error, and is ready just if the token is. -/
theorem mirrored_when_quiet {registry : Registry} {s : Settings} {o : Operator}
    (built : Operator.ofSettings registry s 1 = .ok o) {outset : Cluster.Outset} {before : Cluster}
    (later : (Cluster.empty outset).Later before) (jitter : Nat → Jitter)
    (informed : Informed 1 (start o before jitter) w) (quiet : w.Quiet) {k : Key} {b : Binding}
    {name : String} {t : AccessToken} (stored : w.machine.cluster.bindings.get? k = some b)
    (alive : b.isDeleting = false) (known : (registry.forUrl? b.spec.repoUrl).isSome = true)
    (label : b.metadata.label? linkLabel = some name)
    (found : w.machine.cluster.tokens.get? ⟨b.metadata.space, name⟩ = some t) :
    b.status.linkedToken = name ∧ b.status.reason = none ∧ b.status.message = "" ∧
      b.status.phase = if t.status.phase = .ready then .ready else .awaitingTokenData := by
  obtain ⟨d, rfl, -, rfl, -⟩ := Desks.exists_desks built
  have kept := (Cluster.kept_empty outset).later later
  have begins := d.running_start jitter kept
  -- every key comes up at the start, since the first listings are still to be made
  have launches : (start d.operator before jitter).machine.core.task 0 = .launch [0, 1, 2] := rfl
  have heeded : Heeded d w.machine.core w.listed k := by
    apply informed.heeded begins (.inl ⟨0, _, launches, by decide⟩)
    exact .coming (Brings.coming (.launch (by decide)) launches)
  have running := informed.reached.running begins
  have mirrors : d.bindings.Mirrors (w.machine.cluster.couple k) := by
    cases heeded with
    | coming coming => exact absurd coming quiet.not_coming
    | relayed _ relays => exact absurd relays quiet.not_relayed
    | promised busy => exact absurd busy (quiet.not_busy running.flight (i := 1) rfl)
    | mirrors mirrors => exact mirrors
  have consistent := (later.trans (informed.reached.later begins)).consistent (Store.consistent_empty _ _)
  have named : name ≠ "" := (consistent.named found).2
  have link : Binding.linkedKey? b = some ⟨b.metadata.space, name⟩ := by
    simp [Binding.linkedKey?, Binding.linkedToken?, label, named]
  have status := mirrors b t (couple_eq_some.mpr ⟨stored, _, link, found⟩) alive known
  have same : t.metadata.name = name := congrArg Key.name (consistent.filed found)
  rw [status]
  refine ⟨same, rfl, rfl, ?_⟩
  simp [BindingStatus.linked]

/-- A binding of the one provider. -/
def lateBinding : Binding :=
  .fresh (Metadata.named "dev" "repo") "https://git.example/repo" Permissions.none

/-- The token that is made for it. -/
def lateToken : Key := ⟨"dev", "generated-access-token-<t1>"⟩

/-- The owner of its record. -/
def lateOwner : AccessToken :=
  .fresh { Metadata.named "dev" lateToken.name with uid := "<uid:t1>" } "https://git.example" .none

/-- A pass over the binding makes a token. Its record is stored, the token becomes ready, and who
follows tokens finds no binding that is linked to it. Only then the pass writes the link, and the
status of the token that it has made; a second pass looks at the token again. -/
def lateLink : Works :=
  run agreeable fewWorks
    (.outside (.bindings (.create lateBinding)) :: tasksTurn [0, 7, 7, 7, 8, 8, 8, 8] ++
      .outside (.vault (.store lateOwner .blank)) ::
      tasksTurn ([(3, 3), (4, 8), (5, 9), (8, 3), (6, 4), (8, 5), (10, 3), (6, 2), (8, 4), (2, 6), (4, 6),
        (1, 6)].flatMap fun (id, times) => List.replicate times id))

theorem mirrored_when_quiet_lateLink :
    ∃ b ∈ lateLink.machine.cluster.bindings.get? lateBinding.key,
      ∃ t ∈ lateLink.machine.cluster.tokens.get? lateToken, t.status.phase = .ready ∧
        b.status.linkedToken = lateToken.name ∧ b.status.reason = none ∧ b.status.message = "" ∧
          b.status.phase = if t.status.phase = .ready then .ready else .awaitingTokenData := by
  obtain ⟨b, stored, ⟨alive, known, space, label⟩, t, found, ready⟩ :
      ∃ b ∈ lateLink.machine.cluster.bindings.get? lateBinding.key, (b.isDeleting = false ∧
        (oneProvider.forUrl? b.spec.repoUrl).isSome = true ∧ b.metadata.space = "dev" ∧
        b.metadata.label? linkLabel = some lateToken.name) ∧
      ∃ t ∈ lateLink.machine.cluster.tokens.get? lateToken, t.status.phase = .ready := by decide +kernel
  have informed : Informed 1 fewWorks lateLink := by
    refine .run .start agreeable _ ?_
    decide +kernel
  have quiet : lateLink.Quiet := by decide +kernel
  refine ⟨b, stored, t, found, ready, ?_⟩
  have there : lateLink.machine.cluster.tokens.get? ⟨b.metadata.space, lateToken.name⟩ = some t := by
    rw [space]
    exact found
  exact mirrored_when_quiet ofSettings_fewWorkers .now _ informed quiet stored alive known label there

end Works

end TokenSteward
