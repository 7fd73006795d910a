import TokenSteward.Proofs.Passage.Binding
import TokenSteward.Proofs.Passage.Token
import TokenSteward.Proofs.Traffic.Basic

/-! # No write undoes what others did

Others may write, delete and recreate the object of a pass between any two of its requests. A write of
the pass is carried out only if what is stored then is the very copy that the pass goes by: the one
that it read, or the one that it wrote itself. If anything else is stored, the write fails and all
stays as the others left it.
-/

namespace TokenSteward

open TokenSteward.Cluster TokenSteward.Resource Pass

/-- What an exchange of a pass does to objects of the kind that the pass is over. A pass over a data
update writes neither tokens nor bindings. -/
def Errand.Timely : Errand → List Exchange → Exchange → Prop
  | .token d k, past, x => d.Timely k past x
  | .binding d k, past, x => d.Timely k past x
  | .update _ _, _, x => x.left.tokens = x.cluster.tokens ∧ x.left.bindings = x.cluster.bindings

/-- Every exchange of a pass is timely, whatever comes before each of its requests. -/
theorem Errand.timely_of_play (e : Errand) (g : Ground) (comes : Nat → Between)
    {past late : List Exchange} {x : Exchange}
    (parts : (e.pass.play comes 0 g).1 = past ++ x :: late) : e.Timely past x := by
  have reaches := reaches_of_play parts
  have order := ordered_of_play parts
  cases e with
  | token d k => exact TokenDesk.timely_of_step (TokenDesk.step_of_reaches reaches) order
  | binding d k => exact BindingDesk.timely_of_step (BindingDesk.step_of_reaches reaches) order
  | update d k =>
    have asks := ((d.asks_pass k).reaches reaches).2
    constructor
    · apply Cluster.tokens_answer
      intro q same
      rw [same] at asks
      cases asks
    · apply Cluster.bindings_answer
      intro q same
      rw [same] at asks
      cases asks

/-- A token that nobody has looked at yet. -/
def newToken : AccessToken := .fresh (Metadata.named "dev" "git") "https://git.example" .none

/-- A pass over that token. -/
def newErrand : Errand := .token ⟨[], none, TokenDesk.standardRecheck⟩ newToken.key

/-- The token is created before it is read, and edited before the guards are put on it. -/
def editedMeanwhile : Nat → Between
  | 0 => ⟨[(.quiet, .tokens (.create newToken))], 0, .quiet⟩
  | 1 => ⟨[(.quiet, .tokens (.update { newToken with spec := ⟨"https://other.example", .none⟩ }))], 0,
      .quiet⟩
  | _ => ⟨[], 0, .quiet⟩

/-- The exchanges of that pass. -/
def editedPlay : List Exchange :=
  (newErrand.pass.play editedMeanwhile 0 ⟨.empty (.serial 0), Cluster.sound_empty (.serial 0)⟩).1

/-- The guards of a token that was edited after it was read are not written, and the edit stays. -/
theorem Errand.timely_of_play_edited : ∃ past x late, editedPlay = past ++ x :: late ∧ x.Fails ∧
    (x.left.tokens.get? newToken.key).map (·.spec.providerUrl) = some "https://other.example" ∧
    newErrand.Timely past x := by
  have long : 1 < editedPlay.length := by decide +kernel
  have second : ∀ x ∈ editedPlay[1]?, x.Fails ∧
      (x.left.tokens.get? newToken.key).map (·.spec.providerUrl) = some "https://other.example" := by
    decide +kernel
  obtain ⟨fails, edited⟩ := second editedPlay[1] (List.getElem?_eq_getElem long)
  have parts : editedPlay = editedPlay.take 1 ++ editedPlay[1] :: editedPlay.drop 2 := by
    rw [← List.drop_eq_getElem_cons long, List.take_append_drop]
  exact ⟨_, _, _, parts, fails, edited, newErrand.timely_of_play _ _ parts⟩

end TokenSteward
