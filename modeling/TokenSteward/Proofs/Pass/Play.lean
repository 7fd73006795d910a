import TokenSteward.Proofs.Cluster.Chances
import TokenSteward.Proofs.Pass.Discipline

/-! # Passes with all that comes between

Between two requests of a pass others may ask for anything, and time goes by. So a play of a pass is
given by a cluster and by what comes before each request; it consists of the exchanges and the
result. Every pass has a result in every play.
-/

namespace TokenSteward

open TokenSteward.Cluster TokenSteward.Resource

/-- A sound cluster. -/
structure Ground where
  cluster : Cluster
  sound : cluster.Sound

/-- A cluster without objects and records. -/
def Ground.bare (outset : Cluster.Outset) : Ground := ⟨.empty outset, Cluster.sound_empty outset⟩

/-- What comes before a request: the requests of others, with their chances, then the time and the
chance of the request itself. -/
structure Between where
  others : List (Chance × Request)
  clock : Int64
  chance : Chance

/-- The ground after a request. -/
def Ground.answer (g : Ground) (x : Chance) (r : Request) : Ground :=
  ⟨(g.cluster.answer x r).2, g.sound.answer x r⟩

/-- The ground that a request meets. -/
def Ground.after (g : Ground) (b : Between) : Ground :=
  let last := b.others.foldl (fun g o => g.answer o.1 o.2) g
  ⟨{ last.cluster with clock := b.clock }, last.sound.later (.clock .now b.clock)⟩

theorem Ground.later_after (g : Ground) (b : Between) : g.cluster.Later (g.after b).cluster := by
  refine .clock ?_ b.clock
  have all : ∀ (others : List (Chance × Request)) (h : Ground), g.cluster.Later h.cluster →
      g.cluster.Later (others.foldl (fun g o => g.answer o.1 o.2) h).cluster := by
    intro others
    induction others with
    | nil => exact fun h later => later
    | cons o rest ih => exact fun h later => ih _ (.answer later o.1 o.2)
  exact all b.others g .now

/-- A request with the ground that it met, and its chance. -/
structure Exchange extends Ground where
  chance : Chance
  request : Request

namespace Exchange

/-- The answer to the request. -/
def answer (x : Exchange) : x.request.Answer := (x.cluster.answer x.chance x.request).1

/-- The cluster that the request left behind. -/
def left (x : Exchange) : Cluster := (x.cluster.answer x.chance x.request).2

/-- A request to the tokens that was answered was carried out. -/
theorem tokens_served {met : Ground} {c : Chance} {r : StoreRequest TokenSpec TokenStatus} {a : r.Result}
    (said : (.ok a : (Request.tokens r).Answer) = answer ⟨met, c, .tokens r⟩) :
    (met.cluster.tokens.perform met.cluster.now r).1 = .ok a ∧
      (left ⟨met, c, .tokens r⟩).tokens = (met.cluster.tokens.perform met.cluster.now r).2 := by
  rcases Cluster.answer_tokens_cases met.cluster c r with ⟨f, failed⟩ | ⟨answered, served⟩
  · simp [answer, failed] at said
  · exact ⟨(said.trans answered).symm, served⟩

/-- A request to the tokens that failed had no effect. -/
theorem tokens_failed {met : Ground} {c : Chance} {r : StoreRequest TokenSpec TokenStatus} {f : StoreFailure}
    (said : (.error f : (Request.tokens r).Answer) = answer ⟨met, c, .tokens r⟩) :
    (left ⟨met, c, .tokens r⟩).tokens = met.cluster.tokens := by
  rcases Cluster.answer_tokens_cases met.cluster c r with ⟨g, failed⟩ | ⟨answered, served⟩
  · simp only [left, failed]
  · exact served.trans (Store.perform_of_error (said.trans answered).symm)

/-- A request to the bindings that was answered was carried out. -/
theorem bindings_served {met : Ground} {c : Chance} {r : StoreRequest BindingSpec BindingStatus} {a : r.Result}
    (said : (.ok a : (Request.bindings r).Answer) = answer ⟨met, c, .bindings r⟩) :
    (met.cluster.bindings.perform met.cluster.now r).1 = .ok a ∧
      (left ⟨met, c, .bindings r⟩).bindings = (met.cluster.bindings.perform met.cluster.now r).2 := by
  rcases Cluster.answer_bindings_cases met.cluster c r with ⟨f, failed⟩ | ⟨answered, served⟩
  · simp [answer, failed] at said
  · exact ⟨(said.trans answered).symm, served⟩

/-- A request to the bindings that failed had no effect. -/
theorem bindings_failed {met : Ground} {c : Chance} {r : StoreRequest BindingSpec BindingStatus} {f : StoreFailure}
    (said : (.error f : (Request.bindings r).Answer) = answer ⟨met, c, .bindings r⟩) :
    (left ⟨met, c, .bindings r⟩).bindings = met.cluster.bindings := by
  rcases Cluster.answer_bindings_cases met.cluster c r with ⟨g, failed⟩ | ⟨answered, served⟩
  · simp only [left, failed]
  · exact served.trans (Store.perform_of_error (said.trans answered).symm)

/-- A request to the updates that failed had no effect. -/
theorem updates_failed {met : Ground} {c : Chance} {r : StoreRequest DataUpdateSpec Unit} {f : StoreFailure}
    (said : (.error f : (Request.updates r).Answer) = answer ⟨met, c, .updates r⟩) :
    (left ⟨met, c, .updates r⟩).updates = met.cluster.updates := by
  rcases Cluster.answer_updates_cases met.cluster c r with ⟨g, failed⟩ | ⟨answered, served⟩
  · simp only [left, failed]
  · exact served.trans (Store.perform_of_error (said.trans answered).symm)

end Exchange

namespace Pass

variable {α : Type}

/-- The exchanges of a pass and its result, over a ground and by what comes before its requests,
counted from a number on. -/
def play (comes : Nat → Between) : Nat → Ground → Pass α → List Exchange × Except Failure α
  | _, _, .done a => ([], .ok a)
  | _, _, .fail f => ([], .error f)
  | n, g, .ask r next =>
    let x : Exchange := ⟨g.after (comes n), (comes n).chance, r⟩
    let rest := play comes (n + 1) (x.toGround.answer x.chance r) (next x.answer)
    (x :: rest.1, rest.2)

/-- A ground can be met after some exchanges: it is later than what the last of them has left. -/
def Follows (past : List Exchange) (met : Ground) : Prop :=
  ∀ x ∈ past.getLast?, x.left.Later met.cluster

/-- The discipline that allows everything and knows all exchanges. -/
def playing : Discipline (List Exchange) where
  allows _ _ := True
  leads past r answer later := ∃ (met : Ground) (c : Chance), Follows past met ∧
    answer = (⟨met, c, r⟩ : Exchange).answer ∧ later = past ++ [⟨met, c, r⟩]

private theorem obeys_play_from {ending : List Exchange → Except Failure α → Prop}
    {comes : Nat → Between} {p : Pass α} {past : List Exchange} {n : Nat} {g : Ground}
    (obeys : p.Obeys playing ending past) (last : ∀ x ∈ past.getLast?, x.left = g.cluster) :
    ending (past ++ (p.play comes n g).1) (p.play comes n g).2 := by
  induction p generalizing past n g with
  | done a => simpa [Pass.play, Obeys] using obeys
  | fail f => simpa [Pass.play, Obeys] using obeys
  | ask r next ih =>
    have follows : Follows past (g.after (comes n)) := fun x here => by
      rw [last x here]
      exact g.later_after (comes n)
    have rest := obeys.2 _ _ ⟨_, (comes n).chance, follows, rfl, rfl⟩
    have later := @ih _ _ (n + 1) (Ground.answer (g.after (comes n)) (comes n).chance r) rest
      (by simp [Exchange.left, Ground.answer])
    simpa [Pass.play] using later

/-- What is shown of the end of a pass that knows all exchanges, holds of each play. -/
theorem Obeys.play {ending : List Exchange → Except Failure α → Prop} {p : Pass α}
    (obeys : p.Obeys playing ending []) (comes : Nat → Between) (g : Ground) :
    ending (p.play comes 0 g).1 (p.play comes 0 g).2 :=
  obeys_play_from obeys (by simp)

/-- The exchanges only become more. -/
theorem Obeys.grows {ending : List Exchange → Except Failure α → Prop} {past : List Exchange}
    {p : Pass α} (obeys : p.Obeys playing ending past) :
    p.Obeys playing (fun later result => ending later result ∧ ∃ more, later = past ++ more) past := by
  induction p generalizing past with
  | done a => exact ⟨obeys, [], by simp⟩
  | fail f => exact ⟨obeys, [], by simp⟩
  | ask r next ih =>
    refine ⟨trivial, fun answer later ⟨met, c, follows, same, grown⟩ => ?_⟩
    apply (ih answer (obeys.2 answer later ⟨met, c, follows, same, grown⟩)).mono
    intro last result
    rintro ⟨ends, more, rfl⟩
    exact ⟨ends, ⟨met, c, r⟩ :: more, by simp [grown]⟩

/-- A binding of which whatever can be met next is a copy. -/
def Fresh (b : Binding) (past : List Exchange) : Prop :=
  ∀ met, Follows past met → met.cluster.bindings.Snapshot b

/-- A copy that an exchange has left is fresh. -/
theorem fresh_of_snapshot {b : Binding} {past : List Exchange} {x : Exchange}
    (copy : x.left.bindings.Snapshot b) : Fresh b (past ++ [x]) := by
  intro met follows
  have later := follows x (by simp)
  exact (x.sound.answer x.chance x.request).snapshot_later later copy

/-- A fresh copy stays fresh. -/
theorem Fresh.snoc {b : Binding} {past : List Exchange} (fresh : Fresh b past) {met : Ground}
    (follows : Follows past met) (c : Chance) (r : Request) : Fresh b (past ++ [⟨met, c, r⟩]) :=
  fresh_of_snapshot ((fresh met follows).change (met.sound.change_bindings c r))

end Pass

end TokenSteward
