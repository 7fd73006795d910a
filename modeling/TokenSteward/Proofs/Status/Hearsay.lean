import TokenSteward.Proofs.Status.Proper
import TokenSteward.Proofs.Traffic.Basic

/-! # Runs by hearsay

In these runs a pass may be told anything at all: whatever becomes of a request, its answer need not
be true. Requests fail by chance, passes are given up, users create, edit and delete what they like
and store any records. As long as users leave the statuses of tokens to the passes, every stored
token has a proper status.
-/

namespace TokenSteward.Hearsay

open TokenSteward.Cluster TokenSteward.Resource TokenSteward.Provider Pass

/-- What a pass is told instead of the answer to a request, if it is told anything else. -/
abbrev Tale := (r : Request) → Option r.Answer

/-- A move of a run. A pass that is told a tale does not hear the answer. -/
inductive Turn where
  | begins (e : Errand)
  | told (i : Nat) (x : Chance) (tale : Tale)
  | outside (x : Chance) (r : Request)
  | time (clock : Int64)

/-- What a move makes of the traffic. -/
def after (t : Traffic) : Turn → Traffic
  | .begins e => { t with passes := t.passes ++ [e.pass] }
  | .told i x tale =>
    match t.passes[i]? with
    | some (.ask r next) =>
      ⟨(t.cluster.answer x r).2, t.passes.set i (next ((tale r).getD (t.cluster.answer x r).1))⟩
    | _ => t
  | .outside x r => { t with cluster := (t.cluster.answer x r).2 }
  | .time clock => { t with cluster := { t.cluster with clock := clock } }

/-- The traffic after some moves, from a cluster without objects and records. -/
def run (outset : Cluster.Outset) (turns : List Turn) : Traffic := turns.foldl after ⟨.empty outset, []⟩

/-- Whoever makes a move from outside leaves the statuses of tokens to the passes: a token is created
without one, and none is set. -/
def Turn.minds : Turn → Bool
  | .outside _ (.tokens (.create o)) => o.status = .initial
  | .outside _ (.tokens (.updateStatus _)) => false
  | _ => true

/-- What every move keeps: the stores are sound, the statuses are proper, and the passes under way ask
for nothing else. -/
structure Orderly (t : Traffic) : Prop where
  sound : t.cluster.Sound
  proper : t.cluster.Proper
  neat : ∀ p ∈ t.passes, p.Asks Neat

theorem neat_of_minds {x : Chance} {r : Request} (minds : (Turn.outside x r).minds = true) : Neat r := by
  cases r with
  | tokens q =>
    cases q with
    | create o =>
      have initial : o.status = .initial := of_decide_eq_true minds
      simp only [Neat, initial]
      exact proper_awaiting ""
    | updateStatus o => cases minds
    | _ => trivial
  | _ => trivial

theorem neat_errand (e : Errand) : e.pass.Asks Neat := by
  cases e with
  | token d k => exact d.neat_pass k
  | binding d k => exact d.neat_pass k
  | update d k => exact d.neat_pass k

/-- A move keeps the traffic orderly. -/
theorem Orderly.after {t : Traffic} (orderly : Orderly t) {m : Turn} (minds : m.minds = true) :
    Orderly (after t m) := by
  obtain ⟨sound, proper, neat⟩ := orderly
  cases m with
  | begins e =>
    refine ⟨sound, proper, fun p here => ?_⟩
    rcases List.mem_append.mp here with old | new
    · exact neat p old
    · exact List.mem_singleton.mp new ▸ neat_errand e
  | told i x tale =>
    simp only [Hearsay.after]
    split
    · next r next asks =>
      obtain ⟨asked, goesOn⟩ := neat _ (List.mem_of_getElem? asks)
      refine ⟨sound.answer x r, proper.answer sound x asked, fun p here => ?_⟩
      rcases List.mem_or_eq_of_mem_set here with old | rfl
      · exact neat p old
      · exact goesOn _ () trivial
    · exact ⟨sound, proper, neat⟩
  | outside x r => exact ⟨sound.answer x r, proper.answer sound x (neat_of_minds minds), neat⟩
  | time clock => exact ⟨⟨sound.tokens, sound.bindings, sound.updates⟩, proper, neat⟩

/-- Every run is orderly at its end. -/
theorem orderly_run (outset : Cluster.Outset) (turns : List Turn) (minds : ∀ m ∈ turns, m.minds = true) :
    Orderly (run outset turns) := by
  induction turns using List.reverseRecOn with
  | nil =>
    refine ⟨Cluster.sound_empty outset, fun k t present => ?_, fun p none => ?_⟩
    · cases present
    · cases none
  | append_singleton turns m ih =>
    rw [run, List.foldl_append]
    exact (ih fun n here => minds n (List.mem_append_left _ here)).after (minds m (by simp))

/-- In every run every stored token has a proper status, whatever the passes were told. -/
theorem proper_of_stored (outset : Cluster.Outset) {turns : List Turn} (minds : ∀ m ∈ turns, m.minds = true)
    {k : Key} {t : AccessToken} (stored : (run outset turns).cluster.tokens.get? k = some t) :
    t.status.Proper :=
  (orderly_run outset turns minds).proper k t stored

/-- A provider that is content with every record. -/
def content : Chance := .calm fun _ r => match r with
  | .validate _ _ => .ok ⟨[]⟩
  | .lookup _ => .ok none
  | .persist _ _ => .ok ⟨"octocat", "1", [], []⟩

/-- A pass reads a new token that is edited before the guards are put on, so that write fails. A
second pass finds a record of the token by now and goes on to its end. -/
def readyTurns : List Turn :=
  let token : AccessToken := .fresh (.named "dev" "git") "https://git.example" .none
  let desk : TokenDesk := ⟨[⟨default, "https://git.example", fun _ => []⟩], none, TokenDesk.standardRecheck⟩
  let hears (i : Nat) : Turn := .told i content fun _ => none
  [.outside .quiet (.tokens (.create token)), .begins (.token desk token.key), hears 0,
    .outside .quiet (.tokens (.update { token with spec := ⟨"https://git.example/org", .none⟩ })),
    .outside .quiet (.vault (.store { token with metadata.uid := "<uid:t1>" } .blank)), hears 0,
    .begins (.token desk token.key), hears 1, hears 1, hears 1, hears 1, hears 1, hears 1]

/-- A token becomes ready in such a run. -/
theorem proper_of_stored_ready :
    ∃ t, (run (.serial 0) readyTurns).cluster.tokens.get? ⟨"dev", "git"⟩ = some t ∧
      t.status.phase = .ready ∧ t.status.Proper := by
  have ready : ((run (.serial 0) readyTurns).cluster.tokens.get? ⟨"dev", "git"⟩).map (·.status.phase) =
      some .ready := by
    decide +kernel
  obtain ⟨t, stored, phase⟩ := Option.map_eq_some_iff.mp ready
  exact ⟨t, stored, phase, proper_of_stored (.serial 0) (by decide +kernel) stored⟩

end TokenSteward.Hearsay
