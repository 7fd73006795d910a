import TokenSteward.Controller.Operator
import TokenSteward.Pass.Announced
import TokenSteward.Rehearsal.Script
import TokenSteward.Rehearsal.Stage

/-! # A world to rehearse in

A world has a cluster, providers that behave as they are told, a queue of its own and a clock. In it
passes can be run one at a time, and controllers in the background.
-/

namespace TokenSteward.Rehearsal

open TokenSteward.Cluster TokenSteward.Resource TokenSteward.Provider TokenSteward.Secret
open TokenSteward.OAuth TokenSteward.Queue TokenSteward.Controller TokenSteward.Time

/-- The owner of a record that a script tells by its metadata alone. -/
instance : Coe Metadata AccessToken := ⟨fun m => .fresh m "" Permissions.none⟩

/-- A world: the machine with its stage, the providers, the builder of links, the time between two
looks at a deletion, the builder and the queue of those who work at present, how many changes of
each store were seen by its followers, which controllers are scripted, and how many notes were
looked at, with the number of scripted passes that were going on then. -/
structure World where
  run : Run Stage
  registry : Registry
  links : Option LinkBuilder
  recheck : Span
  shownBy : Option LinkBuilder
  tokenQueue : Nat
  following : List (Source × Nat)
  scripted : List Nat
  looked : Nat
  active : Nat

namespace World

/-- The number of the world's own queue. -/
def ownQueue : Nat := 0

/-- A world without objects at an instant. -/
def start (clock : Int64) (registry : Registry) (links : Option LinkBuilder) (recheck : Span) :
    World :=
  ⟨⟨Machine.start (Cluster.empty (.serial clock)), .bare, []⟩, registry, links, recheck, links, ownQueue, [],
    [], 0, 0⟩

/-- The cluster of a world. -/
def cluster (w : World) : Cluster := w.run.machine.cluster

/-- Changes the machine. -/
def change (w : World) (f : Machine → Machine) : World :=
  { w with run := { w.run with machine := f w.run.machine } }

/-- Changes the stage. -/
def arrange (w : World) (f : Stage → Stage) : World :=
  { w with run := { w.run with memory := f w.run.memory } }

/-- Runs a pass in one go. -/
def perform {α : Type} (w : World) (p : Pass α) : Except Failure α × World :=
  let (result, run) := Stage.perform p w.run
  (result, { w with run := run })

/-- Asks one thing. -/
def ask (w : World) (r : Request) : r.Answer × World :=
  let (a, c, s) := Stage.answer r w.cluster w.run.memory
  (a, { w with run := { w.run with machine := w.run.machine.withCluster c, memory := s } })

/-- Changes how the first provider of a type behaves. Of providers alike in type and URL only the
last one is ever asked, so that a change of an earlier one does not show. -/
def instruct (w : World) (type : ProviderType) (change : Behaviour → Behaviour) : World :=
  match w.registry.filter fun p => p.type = type with
  | [] => w
  | p :: later =>
    if later.any fun q => q.baseUrl == p.baseUrl then w
    else w.arrange fun s => s.instruct p change

/-! ## Desks -/

/-- Those who work on tokens. -/
def tokenDesk (w : World) : TokenDesk := ⟨w.registry, w.links, w.recheck⟩

/-- Those who work on bindings. -/
def bindingDesk (w : World) : BindingDesk := ⟨w.registry⟩

/-- Those who work on data updates. They feed the world's own queue. -/
def updateDesk (_ : World) : UpdateDesk := ⟨ownQueue⟩

/-- The pass of a kind of controller over a key. -/
def passOf (w : World) (kind : ControllerKind) (k : Key) : Pass Action :=
  match kind with
  | .accessToken => w.tokenDesk.pass k
  | .binding => w.bindingDesk.pass k
  | .dataUpdate => w.updateDesk.pass k

/-- Runs a pass of a kind of controller over a key, and tells the calls to providers. -/
def reconcile (w : World) (kind : ControllerKind) (k : Key) :
    Except Failure Action × List Call × World :=
  let (result, w) := (w.arrange fun s => { s with calls := [] }).perform (w.passOf kind k)
  (result, w.run.memory.calls.reverse, w)

/-! ## Objects -/

/-- Whether a store has made up a name. -/
def isMadeUp (w : World) (name : String) : Bool :=
  [w.cluster.tokens.namings, w.cluster.bindings.namings, w.cluster.updates.namings].any
    fun made => made.contains name

/-- The text of a number in four places. -/
def fourPlaces (n : Nat) : String :=
  let ds := Number.digits n
  String.ofList (List.replicate (4 - ds.length) '0' ++ ds)

/-- Objects with a serial number behind the name. -/
def numbered {σ τ : Type} (o : Object σ τ) (count : Nat) : List (Object σ τ) :=
  (List.range count).map fun n =>
    { o with metadata := { o.metadata with name := o.metadata.name ++ fourPlaces n } }

/-- Begins to follow a store anew. -/
def follow (w : World) (s : Source) : World :=
  { w with following := (s, s.published w.cluster) :: w.following.filter (·.1 != s) }

/-- What a follower sees who has seen a number of changes, up to a number of looks. -/
def sights {σ τ : Type} (s : Store σ τ) : Nat → Nat → List (Store.Seen σ τ)
  | 0, _ => []
  | looks + 1, seen =>
    match s.follow seen with
    | (.nothing, _) => []
    | (sight, seen) => sight :: sights s looks seen

/-- The world after the follower of a store has seen everything. -/
def caughtUp (w : World) (s : Source) : World :=
  if w.following.any (·.1 == s) then w.follow s else w

/-! ## The queue of tokens

Tokens wait in the world's own queue, or in that of the operator that was started last.
-/

/-- The queue that the world's own passes over data updates feed. -/
def fedQueue (w : World) : Queue := (w.run.machine.queue ownQueue).queue

/-- Adds a key to the queue of tokens. -/
def enqueue (w : World) (k : Key) : World := w.change fun m => m.enqueue w.tokenQueue k

/-- Takes and gives back keys of the queue of tokens, up to a number of them. -/
def takeKeys : Nat → World → List Key × World
  | 0, w => ([], w)
  | n + 1, w =>
    match (w.run.machine.queue w.tokenQueue).tryTake with
    | (.key k, d) =>
      let w := w.change fun m => (m.setQueue w.tokenQueue (d, [])).giveBack w.tokenQueue k
      let (rest, w) := takeKeys n w
      (k :: rest, w)
    | (_, d) => ([], w.change fun m => m.setQueue w.tokenQueue (d, []))

/-- The queue of tokens as it is. -/
def queue (w : World) : Queue := (w.run.machine.queue w.tokenQueue).queue

/-- Takes all keys that wait in the queue of tokens. -/
def takeAll (w : World) : List Key × World := takeKeys (w.queue.waiting.length + 1) w

/-! ## Controllers in the background -/

/-- Starts an operator, and tells what a log shows of it. Its queue of tokens and its builder of
links are those of the present. -/
def startOperator (w : World) (s : Settings) : Except SettingsFault String × World :=
  match Operator.ofSettings w.registry s w.run.machine.queues.length, s.linkBuilder? with
  | .error f, _ | _, .error f => (.error f, w)
  | .ok o, .ok links =>
    (.ok o.describe,
      { w.change fun m => m.installOperator o with shownBy := links, tokenQueue := o.tokens.queue })

/-- Starts a scripted controller that works on the queue of tokens, and tells what a log shows of
it and what it is called. -/
def startScripted (w : World) (s : Script) (followsBindings : Bool) (t : Tuning) :
    String × String × World :=
  let c := s.controller followsBindings t w.tokenQueue
  (c.describe w.queue, c.kind.text,
    { w.change fun m => m.install [c] 0 with
      scripted := w.run.machine.controllers.length :: w.scripted })

/-- What scripted passes have logged since the last look. -/
def look (w : World) : Journal × World :=
  let notes := w.run.machine.notes
  let news := (notes.take (notes.length - w.looked)).reverse
  let logged := news.filter fun n => w.scripted.contains n.controller
  let j := logged.foldl Journal.record (Journal.since w.active)
  (j, { w with looked := notes.length, active := j.active })

/-- Lets time pass. -/
def sleep (w : World) (millis : Nat) : World :=
  { w with run := w.run.sleep Stage.partners millis }

/-- Asks the controllers to stop, and waits for their end. -/
def stop (w : World) : World := { w with run := w.run.stop Stage.partners }

end World

end TokenSteward.Rehearsal
