import Mathlib.Data.List.Forall2
import TokenSteward.Proofs.Secrecy.Machines
import TokenSteward.Proofs.Traffic.Basic

/-! # Secrets do not show

In these runs operators are started and stopped over one cluster, their tasks are at turn in whatever
order, passes over objects are run beside them, writers announce records, and users ask for anything.
Two runs of the same acts may differ in the records that are written, as long as the providers take each
record for its counterpart. Then nothing that can be seen without reading a record tells one run from
the other: not the objects or the changes told of them, not the queues, not how a pass ends.
-/

namespace TokenSteward.Secrecy

open TokenSteward.Cluster TokenSteward.Resource TokenSteward.Secret TokenSteward.Provider
open TokenSteward.Controller TokenSteward.Queue

/-- A machine, the passes that are run beside its workers, and the writers of announced records. -/
structure Scene where
  machine : Machine
  passes : List (Pass Action)
  writers : List (Pass Unit)

/-- What happens in a run. Tasks, passes and writers are known by their numbers; with each request comes
what is refused and what the providers say. -/
inductive Act where
  | starts (registry : Registry) (s : Settings)
  | stops
  | stopped
  | task (id : Nat) (x : Chance)
  | late (id : Nat)
  | begins (e : Errand)
  | answered (i : Nat) (x : Chance)
  | writes (owner : AccessToken) (r : Record)
  | erases (owner : AccessToken)
  | writer (i : Nat) (x : Chance)
  | outside (x : Chance) (r : Request)
  | passes (now : Nat)
  | clock (now : Int64)

/-- Carries out a request. A key is added to a queue of the machine. -/
def serve (m : Machine) (x : Chance) : (r : Request) → r.Answer × Machine
  | .enqueue q k => ((), m.enqueue q k)
  | r => ((m.cluster.answer x r).1, m.withCluster (m.cluster.answer x r).2)

/-- Answers what one of some passes asks for next. -/
def goOn {α : Type} (m : Machine) (passes : List (Pass α)) (i : Nat) (x : Chance) :
    Machine × List (Pass α) :=
  match passes[i]? with
  | some (.ask r next) => ((serve m x r).2, passes.set i (next (serve m x r).1))
  | _ => (m, passes)

namespace Scene

/-- What an act makes of a scene. -/
def after (s : Scene) : Act → Scene
  | .starts registry settings =>
    match Operator.ofSettings registry settings s.machine.queues.length with
    | .ok o => { s with machine := s.machine.installOperator o }
    | .error _ => s
  | .stops => { s with machine := s.machine.stop }
  | .stopped => { s with machine := { s.machine with stopping := false } }
  | .task id x => { s with machine := s.machine.turn id x }
  | .late id => { s with machine := s.machine.late id }
  | .begins e => { s with passes := s.passes ++ [e.pass] }
  | .answered i x =>
    { s with machine := (goOn s.machine s.passes i x).1, passes := (goOn s.machine s.passes i x).2 }
  | .writes owner r => { s with writers := s.writers ++ [Announced.store owner r] }
  | .erases owner => { s with writers := s.writers ++ [Announced.delete owner] }
  | .writer i x =>
    { s with
      machine := (goOn s.machine s.writers i x).1
      writers := (goOn s.machine s.writers i x).2 }
  | .outside x r => { s with machine := (serve s.machine x r).2 }
  | .passes now => { s with machine := s.machine.pass now }
  | .clock now =>
    { s with machine := s.machine.withCluster { s.machine.cluster with clock := now } }

/-- The scene before anything has happened. -/
def start (outset : Cluster.Outset) (jitter : Nat → Jitter) : Scene :=
  ⟨{ Machine.start (.empty outset) with jitter := jitter }, [], []⟩

/-- The scene after some acts. -/
def run (outset : Cluster.Outset) (jitter : Nat → Jitter) (acts : List Act) : Scene :=
  acts.foldl after (start outset jitter)

end Scene

/-- The result of the pass that a task is in the midst of, once it has ended. -/
def taskResult? : Task → Option (Except Failure Action)
  | .worker _ (.busy _ p _ _) => p.result?
  | _ => none

/-- What can be seen of a scene: the objects with the changes told of them, the queues, what was noted,
and the results of passes and writers. -/
structure View where
  tokens : Store TokenSpec TokenStatus
  bindings : Store BindingSpec BindingStatus
  updates : Store DataUpdateSpec Unit
  queues : List (Dispenser Nat)
  notes : List Note
  workers : List (Option (Except Failure Action))
  passes : List (Option (Except Failure Action))
  writers : List (Option (Except Failure Unit))

/-- What can be seen of a scene. -/
def Scene.view (s : Scene) : View where
  tokens := s.machine.cluster.tokens
  bindings := s.machine.cluster.bindings
  updates := s.machine.cluster.updates
  queues := s.machine.queues
  notes := s.machine.notes
  workers := s.machine.tasks.toList.map taskResult?
  passes := s.passes.map Pass.result?
  writers := s.writers.map Pass.result?

/-! ## Runs that are alike -/

variable {pairs : Record → Record → Prop}

/-- Two requests of someone outside are the same but for a record. -/
inductive RequestsAlike (pairs : Record → Record → Prop) : Request → Request → Prop where
  | plain {r : Request} (plain : r.Plain) : RequestsAlike pairs r r
  | reads (owner : AccessToken) : RequestsAlike pairs (.vault (.get owner)) (.vault (.get owner))
  | stores (owner : AccessToken) {a b : Record} (pair : pairs a b) :
      RequestsAlike pairs (.vault (.store owner a)) (.vault (.store owner b))

/-- Two acts are the same but for records, and meet chances that take counterparts for the same. -/
inductive Act.Alike (pairs : Record → Record → Prop) : Act → Act → Prop where
  | starts (registry : Registry) (s : Settings) : Alike pairs (.starts registry s) (.starts registry s)
  | stops : Alike pairs .stops .stops
  | stopped : Alike pairs .stopped .stopped
  | task (id : Nat) {x y : Chance} (chance : x.Alike pairs y) : Alike pairs (.task id x) (.task id y)
  | late (id : Nat) : Alike pairs (.late id) (.late id)
  | begins (e : Errand) : Alike pairs (.begins e) (.begins e)
  | answered (i : Nat) {x y : Chance} (chance : x.Alike pairs y) :
      Alike pairs (.answered i x) (.answered i y)
  | writes (owner : AccessToken) {a b : Record} (pair : pairs a b) :
      Alike pairs (.writes owner a) (.writes owner b)
  | erases (owner : AccessToken) : Alike pairs (.erases owner) (.erases owner)
  | writer (i : Nat) {x y : Chance} (chance : x.Alike pairs y) :
      Alike pairs (.writer i x) (.writer i y)
  | outside {x y : Chance} (chance : x.Alike pairs y) {r r' : Request}
      (requests : RequestsAlike pairs r r') : Alike pairs (.outside x r) (.outside y r')
  | passes (now : Nat) : Alike pairs (.passes now) (.passes now)
  | clock (now : Int64) : Alike pairs (.clock now) (.clock now)

/-- Two scenes are alike if their machines, passes and writers are. -/
structure Scene.Alike (pairs : Record → Record → Prop) (s s' : Scene) : Prop where
  machine : s.machine.Alike pairs s'.machine
  passes : List.Forall₂ (Pass.Alike pairs Eq) s.passes s'.passes
  writers : List.Forall₂ (Pass.Alike pairs Eq) s.writers s'.writers

/-- The controllers of an operator of checked settings work in the same way whatever the records are. -/
theorem discreet_ofSettings {registry : Registry} {s : Settings} {first : Nat} {o : Operator}
    (built : Operator.ofSettings registry s first = .ok o) :
    ∀ c ∈ [o.tokens, o.bindings, o.updates], ∀ k count,
      (c.reconcile k count).Alike pairs Eq (c.reconcile k count) := by
  obtain ⟨links, _, rfl⟩ := Operator.eq_of_ofSettings built
  simp only [List.forall_mem_cons, List.not_mem_nil, false_imp_iff, implies_true, and_true]
  exact ⟨fun k _ => TokenDesk.alike_pass _ k, fun k _ => BindingDesk.alike_pass _ k,
    fun k _ => UpdateDesk.alike_pass _ k⟩

theorem alike_errand (e : Errand) : e.pass.Alike pairs Eq e.pass := by
  cases e with
  | token d k => exact d.alike_pass k
  | binding d k => exact d.alike_pass k
  | update d k => exact d.alike_pass k

/-- Requests that are alike are carried out alike. -/
theorem alike_serve {m m' : Machine} (machines : m.Alike pairs m') {x y : Chance}
    (chance : x.Alike pairs y) {r r' : Request} (requests : RequestsAlike pairs r r') :
    (serve m x r).2.Alike pairs (serve m' y r').2 := by
  cases requests with
  | plain plain =>
    cases r with
    | enqueue q k => exact machines.enqueue q k
    | _ => exact machines.withCluster (machines.clusters.answer chance plain).2
  | reads owner => exact machines.withCluster (machines.clusters.get chance owner).2
  | stores owner pair => exact machines.withCluster (machines.clusters.store chance owner pair).2

/-- What is plain is answered in the same way. -/
theorem answer_serve {m m' : Machine} (machines : m.Alike pairs m') {x y : Chance}
    (chance : x.Alike pairs y) {r : Request} (plain : r.Plain) :
    (serve m x r).1 = (serve m' y r).1 := by
  cases r with
  | enqueue q k => rfl
  | _ => exact (machines.clusters.answer chance plain).1

/-- Passes go on alike by the answers of machines that are alike. -/
theorem alike_next {α : Type} {m m' : Machine} (machines : m.Alike pairs m') {x y : Chance}
    (chance : x.Alike pairs y) {r r' : Request} {next : r.Answer → Pass α}
    {next' : r'.Answer → Pass α} (passes : (Pass.ask r next).Alike pairs Eq (.ask r' next')) :
    (serve m x r).2.Alike pairs (serve m' y r').2 ∧
      (next (serve m x r).1).Alike pairs Eq (next' (serve m' y r').1) := by
  cases passes with
  | asks plain goesOn =>
    exact ⟨alike_serve machines chance (.plain plain), answer_serve machines chance plain ▸ goesOn _⟩
  | reads owner goesOn =>
    obtain ⟨told, clusters⟩ := machines.clusters.get chance owner
    exact ⟨machines.withCluster clusters, goesOn _ _ told⟩
  | stores owner pair goesOn =>
    obtain ⟨same, clusters⟩ := machines.clusters.store chance owner pair
    exact ⟨machines.withCluster clusters, same ▸ goesOn _⟩
  | validates s wanted pair goesOn =>
    obtain ⟨next, clusters⟩ :=
      (Pass.Alike.validates s wanted pair goesOn).answered machines.clusters chance
    exact ⟨machines.withCluster clusters, next⟩
  | persists s owner pair goesOn =>
    obtain ⟨next, clusters⟩ :=
      (Pass.Alike.persists s owner pair goesOn).answered machines.clusters chance
    exact ⟨machines.withCluster clusters, next⟩

section

variable {α β : Type} {related : α → β → Prop} {l : List α} {l' : List β}

theorem forall₂_getElem? (lists : List.Forall₂ related l l') (i : Nat) :
    Option.Rel related l[i]? l'[i]? := by
  induction lists generalizing i with
  | nil => exact .none
  | cons first _ ih =>
    cases i with
    | zero => exact .some first
    | succ i => exact ih i

theorem forall₂_set (lists : List.Forall₂ related l l') (i : Nat) {a : α} {b : β}
    (items : related a b) : List.Forall₂ related (l.set i a) (l'.set i b) := by
  induction lists generalizing i with
  | nil => exact .nil
  | cons first rest ih =>
    cases i with
    | zero => exact .cons items rest
    | succ i => exact .cons first (ih i)

theorem forall₂_snoc (lists : List.Forall₂ related l l') {a : α} {b : β} (items : related a b) :
    List.Forall₂ related (l ++ [a]) (l' ++ [b]) :=
  List.rel_append lists (.cons items .nil)

end

/-- One of some passes that are alike goes on alike. -/
theorem alike_goOn {α : Type} {m m' : Machine} (machines : m.Alike pairs m') {x y : Chance}
    (chance : x.Alike pairs y) {ps ps' : List (Pass α)}
    (passes : List.Forall₂ (Pass.Alike pairs Eq) ps ps') (i : Nat) :
    (goOn m ps i x).1.Alike pairs (goOn m' ps' i y).1 ∧
      List.Forall₂ (Pass.Alike pairs Eq) (goOn m ps i x).2 (goOn m' ps' i y).2 := by
  have same := forall₂_getElem? passes i
  unfold goOn
  generalize ps[i]? = p at same ⊢
  generalize ps'[i]? = p' at same ⊢
  cases same with
  | none => exact ⟨machines, passes⟩
  | @some p p' alike =>
    cases p with
    | done a => cases alike; exact ⟨machines, passes⟩
    | fail f => cases alike; exact ⟨machines, passes⟩
    | ask r next =>
      cases p' with
      | done a => cases alike
      | fail f => cases alike
      | ask r' next' =>
        obtain ⟨later, next⟩ := alike_next machines chance alike
        exact ⟨later, forall₂_set passes i next⟩

/-- Acts that are alike make scenes that are alike of such. -/
theorem Scene.Alike.after {s s' : Scene} (scenes : s.Alike pairs s') {a a' : Act}
    (acts : a.Alike pairs a') : (s.after a).Alike pairs (s'.after a') := by
  obtain ⟨machine, passes, writers⟩ := scenes
  cases acts with
  | starts registry settings =>
    simp only [Scene.after, machine.queues]
    split
    · next o built =>
      exact ⟨machine.installOperator (discreet_ofSettings built), passes, writers⟩
    · exact ⟨machine, passes, writers⟩
  | stops => exact ⟨machine.stop, passes, writers⟩
  | stopped =>
    exact ⟨machine.map (f := fun m => { m with stopping := false }) (fun _ _ _ => rfl) (fun _ => rfl)
      (fun _ => rfl) fun _ => rfl, passes, writers⟩
  | task id chance => exact ⟨machine.turn chance id, passes, writers⟩
  | late id => exact ⟨machine.late id, passes, writers⟩
  | begins e => exact ⟨machine, forall₂_snoc passes (alike_errand e), writers⟩
  | answered i chance =>
    obtain ⟨later, passes⟩ := alike_goOn machine chance passes i
    exact ⟨later, passes, writers⟩
  | writes owner pair => exact ⟨machine, passes, forall₂_snoc writers (Announced.alike_store owner pair)⟩
  | erases owner => exact ⟨machine, passes, forall₂_snoc writers (Announced.alike_delete owner)⟩
  | writer i chance =>
    obtain ⟨later, writers⟩ := alike_goOn machine chance writers i
    exact ⟨later, passes, writers⟩
  | outside chance requests => exact ⟨alike_serve machine chance requests, passes, writers⟩
  | passes now => exact ⟨machine.pass now, passes, writers⟩
  | clock now =>
    obtain ⟨tokens, bindings, updates, _, vault⟩ := machine.clusters
    exact ⟨machine.withCluster ⟨tokens, bindings, updates, rfl, vault⟩, passes, writers⟩

/-- Runs of acts that are alike are alike. -/
theorem alike_run (outset : Cluster.Outset) (jitter : Nat → Jitter) {acts acts' : List Act}
    (alike : List.Forall₂ (Act.Alike pairs) acts acts') :
    (Scene.run outset jitter acts).Alike pairs (Scene.run outset jitter acts') := by
  refine List.rel_foldl (fun _ _ scenes _ _ acts => scenes.after acts) ?_ alike
  have empty : TasksAlike pairs #[] #[] := ⟨rfl, fun _ => .free rfl⟩
  exact ⟨.intro ⟨rfl, rfl, rfl, rfl, fun _ => .none⟩ empty (fun _ none => by cases none), .nil, .nil⟩

theorem taskResult?_alike {t t' : Task} (tasks : t.Alike pairs t') :
    taskResult? t = taskResult? t' := by
  cases tasks with
  | worker i k since resting passes => exact passes.result?
  | _ => rfl

theorem map_result?_alike {α : Type} {ps ps' : List (Pass α)}
    (passes : List.Forall₂ (Pass.Alike pairs Eq) ps ps') :
    ps.map Pass.result? = ps'.map Pass.result? := by
  induction passes with
  | nil => rfl
  | cons first _ ih => rw [List.map_cons, List.map_cons, first.result?, ih]

/-- Scenes that are alike look the same. -/
theorem Scene.Alike.view {s s' : Scene} (scenes : s.Alike pairs s') : s.view = s'.view := by
  obtain ⟨machine, passes, writers⟩ := scenes
  have workers := machine.tasks.map_eq taskResult?_alike
  simp only [Scene.view, View.mk.injEq]
  exact ⟨machine.clusters.tokens, machine.clusters.bindings, machine.clusters.updates,
    machine.queues.symm, machine.notes.symm, workers, map_result?_alike passes,
    map_result?_alike writers⟩

/-- In two runs of the same acts, which differ in secret records that the providers do not tell from each
other, everything looks the same after any number of acts, and whoever asks for anything but a record is
told the same then. -/
theorem view_eq_of_alike (outset : Cluster.Outset) (jitter : Nat → Jitter) {acts acts' : List Act}
    (alike : List.Forall₂ (Act.Alike pairs) acts acts') (n : Nat) :
    (Scene.run outset jitter (acts.take n)).view = (Scene.run outset jitter (acts'.take n)).view ∧
      ∀ (x y : Chance) (r : Request), x.Alike pairs y → r.Plain →
        (serve (Scene.run outset jitter (acts.take n)).machine x r).1 =
          (serve (Scene.run outset jitter (acts'.take n)).machine y r).1 := by
  have scenes := alike_run outset jitter (List.forall₂_take n alike)
  exact ⟨scenes.view, fun x y r chance plain => answer_serve scenes.machine chance plain⟩

/-- A provider that takes all records of one user for the same. -/
def naming : Chance := .calm fun _ r => match r with
  | .validate _ _ => .ok ⟨[]⟩
  | .lookup _ => .ok none
  | .persist _ r => .ok ⟨r.username, "1", [], []⟩

/-- A token is created and guarded, a record of it is written and announced, and the token becomes ready
when it is looked at again. -/
def becomesReady (r : Record) : List Act :=
  let token : AccessToken := .fresh (.named "dev" "git") "https://git.example" .none
  let desk : TokenDesk :=
    ⟨[⟨default, "https://git.example", fun _ => []⟩], none, TokenDesk.standardRecheck⟩
  let goesOn (i times : Nat) : List Act := List.replicate times (.answered i naming)
  [.outside naming (.tokens (.create token)), .begins (.token desk token.key)] ++ goesOn 0 3 ++
    [.writes { token with metadata.uid := "<uid:t1>" } r, .writer 0 naming, .writer 0 naming,
      .begins (.update ⟨0⟩ ⟨"dev", "token-data-update-<u1>"⟩)] ++ goesOn 1 3 ++
    [.begins (.token desk token.key)] ++ goesOn 2 5

theorem alike_becomesReady {a b : Record} (user : a.username = b.username) :
    List.Forall₂ (Act.Alike fun a b => a.username = b.username) (becomesReady a) (becomesReady b) := by
  have chance : naming.Alike (fun a b => a.username = b.username) naming :=
    ⟨rfl, rfl, fun _ _ => rfl, fun _ _ _ _ _ => rfl, fun _ _ _ _ pair => by
      simp only [naming, Chance.calm, pair]⟩
  have goesOn (i times : Nat) : List.Forall₂ (Act.Alike fun a b => a.username = b.username)
      (List.replicate times (.answered i naming)) (List.replicate times (.answered i naming)) :=
    List.forall₂_same.mpr fun _ here => List.eq_of_mem_replicate here ▸ .answered i chance
  unfold becomesReady
  refine List.rel_append (List.rel_append (List.rel_append (List.rel_append (List.rel_append ?_
    (goesOn 0 3)) ?_) (goesOn 1 3)) ?_) (goesOn 2 5)
  · exact .cons (.outside chance (.plain trivial)) (.cons (.begins _) .nil)
  · exact .cons (.writes _ user) (.cons (.writer 0 chance) (.cons (.writer 0 chance)
      (.cons (.begins _) .nil)))
  · exact .cons (.begins _) .nil

/-- Of two records of one user the operator shows no more than the user's name, here in the status of a
token that has become ready. -/
theorem view_eq_of_alike_ready : ∃ one other : Record, one ≠ other ∧
    List.Forall₂ (Act.Alike fun a b => a.username = b.username) (becomesReady one) (becomesReady other) ∧
    (Scene.run (.serial 0) (fun _ => .middle) ((becomesReady one).take 18)).machine.cluster.vault ≠
      (Scene.run (.serial 0) (fun _ => .middle) ((becomesReady other).take 18)).machine.cluster.vault ∧
    ((Scene.run (.serial 0) (fun _ => .middle) ((becomesReady one).take 18)).view.tokens.get?
      ⟨"dev", "git"⟩).map (·.status) = some (.ready ⟨"octocat", "1", [], []⟩) ∧
    (Scene.run (.serial 0) (fun _ => .middle) ((becomesReady one).take 18)).view =
      (Scene.run (.serial 0) (fun _ => .middle) ((becomesReady other).take 18)).view := by
  have alike := alike_becomesReady (a := ⟨⟨"one"⟩, "octocat", 0⟩) (b := ⟨⟨"two"⟩, "octocat", 9⟩) rfl
  exact ⟨_, _, by decide, alike, by decide +kernel, by decide +kernel,
    (view_eq_of_alike (.serial 0) (fun _ => .middle) alike 18).1⟩

end TokenSteward.Secrecy
