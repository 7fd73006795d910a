import TokenSteward.Proofs.Rest.Writers

/-! # Announced writes, call by call

Who writes from outside calls a vault that announces its writes. That one passes every call on to the
vault behind it, and tells of a write after that one has carried it out. Both the vault behind and the
store of announcements may fail at any call, and what they answer may depend on all that went before. So
calls are made against anyone who answers, one after the other, and leave the requests with their
answers.
-/

namespace TokenSteward

open TokenSteward.Cluster TokenSteward.Resource TokenSteward.Secret

/-- A request with its answer. -/
structure Answered where
  request : Request
  answer : request.Answer

/-- The request to the vault, if this is one. -/
def Answered.vault? : Answered → Option VaultRequest
  | ⟨.vault r, _⟩ => some r
  | _ => none

/-- Who answers requests, by all that was asked and answered before. -/
abbrev Partner := List Answered → (r : Request) → r.Answer

/-- What a pass asks a partner with a past, with the answers, and what it comes to. -/
def Pass.talk {α : Type} (partner : Partner) : List Answered → Pass α → List Answered × Except Failure α
  | _, .done a => ([], .ok a)
  | _, .fail f => ([], .error f)
  | past, .ask r next =>
    let said : Answered := ⟨r, partner past r⟩
    let rest := talk partner (past ++ [said]) (next said.answer)
    (said :: rest.1, rest.2)

namespace Cluster.VaultRequest

/-- The owner of the record that a request is about. -/
def owner : VaultRequest → AccessToken
  | .store owner _ | .get owner | .delete owner => owner

/-- Whether a request changes the record. -/
def writes : VaultRequest → Bool
  | .store _ _ | .delete _ => true
  | .get _ => false

end Cluster.VaultRequest

namespace Announced

variable {partner : Partner} {past : List Answered} {r : VaultRequest}

/-! ## One call -/

/-- A call of the vault that announces its writes. -/
def call : (r : VaultRequest) → Pass r.Result
  | .store owner record => store owner record
  | .get owner => get owner
  | .delete owner => delete owner

/-- What a write comes to that was carried out and could not be announced. -/
def unannounced (owner : AccessToken) (f : StoreFailure) : Failure :=
  .vault (.backend ("token data for " ++ owner.key.text ++ " changed but the update trigger failed: "
    ++ f.message))

/-- Announces a write, and comes to what the vault has answered to it. -/
def announcing {α : Type} (owner : AccessToken) (a : α) : Pass α :=
  .ask (.updates (.create (DataUpdate.forToken owner.key))) fun
    | .ok _ => .done a
    | .error f => .fail (unannounced owner f)

theorem call_eq (r : VaultRequest) : call r = .ask (.vault r) (fun
    | .ok a => if r.writes then announcing r.owner a else .done a
    | .error f => .fail (.vault f)) := by
  cases r with
  | store owner record =>
    refine (store_eq owner record).trans (congrArg (Pass.ask _) (funext fun answer => ?_))
    cases answer with
    | ok _ => exact announce_eq owner
    | error _ => rfl
  | get owner => rfl
  | delete owner =>
    refine (delete_eq owner).trans (congrArg (Pass.ask _) (funext fun answer => ?_))
    cases answer with
    | ok _ => exact announce_eq owner
    | error _ => rfl

/-- A write that was carried out is announced: one data update is created in the namespace of the owner
and names the owner. The write is successful if that is, and otherwise fails although the record is
written. -/
structure Announces (partner : Partner) (past : List Answered) (owner : AccessToken) {α : Type} (a : α)
    (talk : List Answered) (result : Except Failure α) (u : DataUpdate) : Prop where
  once : talk = [⟨.updates (.create u), partner past (.updates (.create u))⟩]
  space : u.metadata.space = owner.metadata.space
  names : u.spec.tokenName = owner.metadata.name
  successful : ∀ made, partner past (.updates (.create u)) = .ok made → result = .ok a
  failed : ∀ f, partner past (.updates (.create u)) = .error f → result = .error (unannounced owner f)

/-- A call is passed on to the vault first, as it is. If the vault fails, this is what the call comes to
and nothing is announced, and the same holds of what it answers to a read. A write that the vault has
carried out is announced. -/
structure Faithful (partner : Partner) (past : List Answered) (r : VaultRequest) (talk : List Answered)
    (result : Except Failure r.Result) : Prop where
  passed : talk.head? = some ⟨.vault r, partner past (.vault r)⟩
  failed : ∀ f, partner past (.vault r) = .error f → talk.tail = [] ∧ result = .error (.vault f)
  read : ∀ a, r.writes = false → partner past (.vault r) = .ok a → talk.tail = [] ∧ result = .ok a
  announced : ∀ a, r.writes = true → partner past (.vault r) = .ok a →
    ∃ u, Announces partner (past ++ [⟨.vault r, .ok a⟩]) r.owner a talk.tail result u

theorem announces_announcing {α : Type} (owner : AccessToken) (a : α) :
    Announces partner past owner a ((announcing owner a).talk partner past).1
      ((announcing owner a).talk partner past).2 (DataUpdate.forToken owner.key) := by
  simp only [announcing, Pass.talk]
  cases said : partner past (.updates (.create (DataUpdate.forToken owner.key))) with
  | ok made =>
    refine ⟨by rw [said]; rfl, rfl, rfl, fun _ _ => rfl, fun f failed => ?_⟩
    rw [said] at failed
    contradiction
  | error f =>
    refine ⟨by rw [said]; rfl, rfl, rfl, fun made success => ?_, fun g failed => ?_⟩
    · rw [said] at success
      contradiction
    · rw [said] at failed
      cases failed
      rfl

/-- Whoever answers, every call is passed on and announced as it should be. -/
theorem faithful_call (partner : Partner) (past : List Answered) (r : VaultRequest) :
    Faithful partner past r ((call r).talk partner past).1 ((call r).talk partner past).2 := by
  rw [call_eq, Pass.talk]
  refine ⟨rfl, fun f failed => ?_, fun a reads answered => ?_, fun a writes answered => ?_⟩
  · simp only [failed, Pass.talk, List.tail_cons, and_self]
  · simp only [answered, reads, List.tail_cons]
    exact ⟨rfl, rfl⟩
  · simp only [answered, writes, if_true, List.tail_cons]
    exact ⟨_, announces_announcing r.owner a⟩

/-- The vault is asked once in the course of a call. -/
theorem Faithful.vault_talk {talk : List Answered} {result : Except Failure r.Result}
    (faithful : Faithful partner past r talk result) : talk.filterMap Answered.vault? = [r] := by
  have others : talk.tail.filterMap Answered.vault? = [] := by
    cases answered : partner past (.vault r) with
    | error f => rw [(faithful.failed f answered).1, List.filterMap_nil]
    | ok a =>
      cases writes : r.writes with
      | false => rw [(faithful.read a writes answered).1, List.filterMap_nil]
      | true =>
        obtain ⟨u, announces⟩ := faithful.announced a writes answered
        rw [announces.once]
        rfl
  obtain ⟨rest, rfl⟩ := List.head?_eq_some_iff.mp faithful.passed
  exact (List.filterMap_cons_some (f := Answered.vault?) rfl).trans (congrArg (r :: ·) others)

/-! ## Calls one after the other -/

/-- A call that was made: what had been asked before it and what was asked for it, with the answers, and
what it has come to. -/
structure Turn where
  past : List Answered
  call : VaultRequest
  talk : List Answered
  result : Except Failure call.Result

/-- The turns of calls that are made one after the other against a partner with a past. -/
def turns (partner : Partner) : List Answered → List VaultRequest → List Turn
  | _, [] => []
  | past, r :: rest =>
    let made : Turn := ⟨past, r, ((call r).talk partner past).1, ((call r).talk partner past).2⟩
    made :: turns partner (past ++ made.talk) rest

/-- All that was asked in some turns. -/
def asked (made : List Turn) : List Answered := made.flatMap (·.talk)

theorem calls_turns (partner : Partner) (past : List Answered) (calls : List VaultRequest) :
    (turns partner past calls).map (·.call) = calls := by
  induction calls generalizing past with
  | nil => rfl
  | cons r rest ih => simp only [turns, List.map_cons, ih]

/-- The vault behind sees all calls in their order, and no others. -/
theorem vault_asked (partner : Partner) (past : List Answered) (calls : List VaultRequest) :
    (asked (turns partner past calls)).filterMap Answered.vault? = calls := by
  induction calls generalizing past with
  | nil => rfl
  | cons r rest ih =>
    have first := (faithful_call partner past r).vault_talk
    have later := ih (past ++ ((call r).talk partner past).1)
    rw [asked] at later
    simp only [asked, turns, List.flatMap_cons, List.filterMap_append, first, later, List.singleton_append]

/-- Each turn begins where those before it have ended, and its call is passed on and announced as it
should be. -/
theorem faithful_of_turns {calls : List VaultRequest} {early late : List Turn} {t : Turn}
    (here : turns partner past calls = early ++ t :: late) :
    t.past = past ++ asked early ∧ Faithful partner t.past t.call t.talk t.result := by
  induction calls generalizing past early with
  | nil => simp [turns] at here
  | cons r rest ih =>
    cases early with
    | nil =>
      obtain ⟨rfl, -⟩ := List.cons.inj here
      exact ⟨by simp [asked], faithful_call partner past r⟩
    | cons first early =>
      obtain ⟨rfl, later⟩ := List.cons.inj here
      obtain ⟨begins, faithful⟩ := ih later
      exact ⟨by simp [begins, asked], faithful⟩

/-- Whatever the vault behind and the store of announcements answer to whatever calls: the vault sees
these calls in their order and no others, and each of them is passed on and announced as it should be. -/
theorem passes_on_and_announces (partner : Partner) (calls : List VaultRequest) :
    (turns partner [] calls).map (·.call) = calls ∧
      (asked (turns partner [] calls)).filterMap Answered.vault? = calls ∧
      ∀ early t late, turns partner [] calls = early ++ t :: late →
        t.past = asked early ∧ Faithful partner t.past t.call t.talk t.result :=
  ⟨calls_turns partner [] calls, vault_asked partner [] calls, fun _ _ _ here => faithful_of_turns here⟩

/-- What a call has failed with, if it has. -/
def Turn.failure? (t : Turn) : Option Failure :=
  match t.result with
  | .ok _ => none
  | .error f => some f

theorem Turn.failure?_of_error {t : Turn} {f : Failure} (failed : t.result = .error f) :
    t.failure? = some f := by
  simp only [Turn.failure?, failed]

theorem Turn.failure?_of_ok {t : Turn} {a : t.call.Result} (success : t.result = .ok a) :
    t.failure? = none := by
  simp only [Turn.failure?, success]

/-- A cluster that answers, each request with a chance of its own. -/
def serving (c : Cluster) (chances : Nat → Chance) : Partner := fun past r =>
  let met := past.foldl (fun (met : Cluster × Nat) said =>
    ((met.1.answer (chances met.2) said.request).2, met.2 + 1)) (c, 0)
  (met.1.answer (chances met.2) r).1

/-- The store of announcements is out of reach at the second request, and the vault at the third. -/
def fitful : Nat → Chance
  | 1 => { Chance.quiet with refusal := some (.unavailable "out of reach") }
  | 2 => { Chance.quiet with outage := some (.backend "out of order") }
  | _ => .quiet

/-- A token that waits for its record. -/
def waitingOwner : AccessToken :=
  { AccessToken.fresh (.named "dev" "git") "https://git.example" .none with
    status := .awaiting "https://oauth.example/git" }

/-- A record is written and cannot be announced, it cannot be removed, and it is read. -/
def halfDone : List VaultRequest :=
  [.store waitingOwner .blank, .delete waitingOwner, .get waitingOwner]

/-- The first write fails although the record is written, the second one fails as the vault does, and the
record is there when it is read. -/
theorem passes_on_and_announces_halfDone : ∃ t u v : Turn,
    turns (serving (.empty (.serial 0)) fitful) [] halfDone = [t, u, v] ∧ t.talk.length = 2 ∧
      t.failure? = some (unannounced waitingOwner (.unavailable "out of reach")) ∧
      u.talk.tail = [] ∧ u.failure? = some (.vault (.backend "out of order")) ∧
      v.talk.tail = [] ∧ v.failure? = none := by
  obtain ⟨-, -, faithful⟩ := passes_on_and_announces (serving (.empty (.serial 0)) fitful) halfDone
  refine ⟨_, _, _, rfl, ?_⟩
  obtain ⟨-, first⟩ := faithful [] _ _ rfl
  obtain ⟨-, second⟩ := faithful [_] _ _ rfl
  obtain ⟨-, third⟩ := faithful [_, _] _ _ rfl
  obtain ⟨update, announces⟩ := first.announced () rfl rfl
  have same : DataUpdate.forToken ⟨"dev", "git"⟩ = update := by
    injection announces.once with head _
    injection head with head _
    injection head with head
    injection head
  subst same
  have written := announces.failed (.unavailable "out of reach") rfl
  obtain ⟨unsaid, outage⟩ := second.failed (.backend "out of order") rfl
  obtain ⟨quiet, answer⟩ := third.read _ rfl rfl
  exact ⟨rfl, Turn.failure?_of_error written, unsaid, Turn.failure?_of_error outage, quiet,
    Turn.failure?_of_ok answer⟩

end Announced

end TokenSteward
