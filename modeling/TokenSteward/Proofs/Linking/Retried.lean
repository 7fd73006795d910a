import TokenSteward.Proofs.Linking.Stages

/-! # Tokens made for a binding that is tried again

In these runs the passes over one binding follow each other, and each may fail or be given up
wherever it is. No provider finds a token, none is removed, and nobody else sets the link. A pass
makes the token before it writes the link to it, so a link that is lost in between leaves a token
that no later pass knows of. That is the only way in which more than one token is made.
-/

namespace TokenSteward

open TokenSteward.Cluster TokenSteward.Resource TokenSteward.Provider Pass Linking

namespace Traffic

/-- A move of a run in which passes over one binding follow each other. When the next one begins the
latest one is given up. -/
def Retries (k : Key) (t : Traffic) : Move → Prop
  | .begins (.binding _ j) => j = k
  | .begins _ => False
  | .answered i x => i + 1 = t.passes.length ∧ match t.passes[i]? with
    | some (.ask r _) => x.Misses r
    | _ => True
  | .outside r => t.cluster.Keeps k (t.cluster.answer .quiet r).2
  | .time _ => True

instance (k : Key) (t : Traffic) (m : Move) : Decidable (t.Retries k m) := by
  unfold Retries
  split <;> first | infer_instance | skip
  refine @instDecidableAnd _ _ _ ?_
  split <;> infer_instance

/-- The next request of the latest pass. -/
def waiting? (t : Traffic) : Option Request :=
  match t.passes.getLast? with
  | some (.ask r _) => some r
  | _ => none

/-- A token is made by a move. -/
def makes (t : Traffic) : Move → Bool
  | .answered i x => match t.passes[i]? with
    | some (.ask r _) => tokenMade r (t.cluster.answer x r).1
    | _ => false
  | _ => false

/-- By a move the write of a label fails, or is given up before it is carried out. -/
def loses (t : Traffic) : Move → Bool
  | .begins _ => match t.waiting? with
    | some (.bindings (.update _)) => true
    | _ => false
  | .answered i x => match t.passes[i]? with
    | some (.ask r _) => labelLost r (t.cluster.answer x r).1
    | _ => false
  | _ => false

/-- How often something happens by some moves. -/
def count (happens : Traffic → Move → Bool) : Traffic → List Move → Nat
  | _, [] => 0
  | t, m :: rest => (happens t m).toNat + count happens (t.after m) rest

/-- How often something happens in a run from a cluster without objects and records. -/
def tally (outset : Cluster.Outset) (happens : Traffic → Move → Bool) (moves : List Move) : Nat :=
  count happens ⟨.empty outset, []⟩ moves

variable {outset : Cluster.Outset} {k : Key} {t : Traffic} {stage : Stage}

theorem tally_snoc (happens : Traffic → Move → Bool) (moves : List Move) (m : Move) :
    tally outset happens (moves ++ [m]) =
      tally outset happens moves + (happens (run outset moves) m).toNat := by
  simp only [tally, run]
  generalize (⟨.empty outset, []⟩ : Traffic) = t
  induction moves generalizing t with
  | nil => simp [count]
  | cons first rest ih => simp only [List.cons_append, count, ih, List.foldl_cons, Nat.add_assoc]

/-- The linking of a binding has come to a stage, and the latest pass goes on from there. -/
structure Stands (k : Key) (t : Traffic) (stage : Stage) : Prop where
  fits : stage.Fits k t.cluster
  latest : ∀ p, t.passes.getLast? = some p → p.Obeys (stages k) (fun later _ => later.Even) stage
  even : t.passes = [] → stage.Even

/-- While a link is owed, the latest pass is about to write it. -/
theorem Stands.waiting {b : Binding} {name : String} (stands : Stands k t (.owing b name)) :
    t.waiting? = some (.bindings (.update (BindingDesk.labelled b name))) := by
  unfold waiting?
  cases last : t.passes.getLast? with
  | none => exact (stands.even (List.getLast?_eq_none_iff.mp last)).elim
  | some p =>
    have obeys := stands.latest p last
    cases p with
    | done a => exact obeys.elim
    | fail f => exact obeys.elim
    | ask r next =>
      cases obeys.1 with
      | link b name => rfl
      | read even => exact even.elim
      | look even j => exact even.elim
      | search even s b => exact even.elim
      | restate even o => exact even.elim

/-- A move takes the linking from one stage to another. A token that it makes shows in the stage, and
no token gets out of sight unless a link is lost. -/
theorem Stands.after (stands : Stands k t stage) (sound : t.cluster.Sound) {m : Move}
    (retries : t.Retries k m) : ∃ later, Stands k (t.after m) later ∧
      (t.makes m).toNat + stage.made ≤ (t.loses m).toNat + later.made := by
  cases m with
  | begins e =>
    cases e with
    | token d j => exact retries.elim
    | update d j => exact retries.elim
    | binding d j =>
      obtain rfl : j = k := retries
      have last (p : Pass Action) (late : (t.passes ++ [d.pass j]).getLast? = some p) :
          d.pass j = p := by
        simpa using late
      have many (none : t.passes ++ [d.pass j] = []) (later : Stage) : later.Even := by
        simp at none
      cases stage with
      | seeking read =>
        exact ⟨.seeking none, ⟨trivial, fun p late => last p late ▸ obeys_pass d (.inl rfl),
          fun none => many none _⟩, by simp [makes, Stage.made]⟩
      | owing b name =>
        refine ⟨.seeking none, ⟨trivial, fun p late => last p late ▸ obeys_pass d (.inl rfl),
          fun none => many none _⟩, ?_⟩
        simp [makes, loses, stands.waiting, Stage.made]
      | linked name =>
        exact ⟨.linked name, ⟨stands.fits, fun p late =>
          last p late ▸ obeys_pass d (.inr ⟨name, rfl⟩), fun none => many none _⟩,
          by simp [makes, Stage.made]⟩
  | answered i x =>
    obtain ⟨latest, misses⟩ := retries
    have last : t.passes.getLast? = t.passes[i]? := by
      rw [List.getLast?_eq_getElem?, ← latest, Nat.add_sub_cancel]
    simp only [Traffic.after, makes, loses]
    cases asks : t.passes[i]? with
    | none => exact ⟨stage, stands, by simp⟩
    | some p =>
      cases p with
      | done a => exact ⟨stage, stands, by simp⟩
      | fail f => exact ⟨stage, stands, by simp⟩
      | ask r next =>
        obtain ⟨allows, goesOn⟩ := stands.latest _ (last.trans asks)
        have fits := stands.fits.answered sound x allows
        refine ⟨stage.next r (t.cluster.answer x r).1, ⟨fits, fun p late => ?_, fun none => ?_⟩,
          allows.made_next _⟩
        · have inRange : i < t.passes.length := by omega
          rw [List.getLast?_eq_getElem?, List.length_set, ← latest, Nat.add_sub_cancel,
            List.getElem?_set_self inRange] at late
          obtain rfl := Option.some.inj late
          simp only [asks] at misses
          exact goesOn _ _ ⟨t.cluster, x, sound, stands.fits, misses, rfl, rfl⟩
        · have bare : t.passes = [] := by simpa using none
          simp [bare] at latest
  | outside r =>
    exact ⟨stage, ⟨stands.fits.kept sound retries (sound.change_bindings _ r), stands.latest,
      stands.even⟩, by simp [makes]⟩
  | time clock =>
    exact ⟨stage, ⟨stands.fits.kept sound (keeps_refl k sound) .kept, stands.latest, stands.even⟩,
      by simp [makes]⟩

/-- In every such run the linking has come to some stage, and no token was made that the stage does
not tell of, unless a link was lost. -/
theorem exists_stage (moves : List Move) (retries : Always outset (Retries k) moves) :
    ∃ stage, Stands k (run outset moves) stage ∧
      tally outset makes moves ≤ tally outset loses moves + stage.made := by
  induction moves using List.reverseRecOn with
  | nil => exact ⟨.seeking none, ⟨trivial, by simp [run], fun _ => trivial⟩, Nat.zero_le _⟩
  | append_singleton moves m ih =>
    obtain ⟨before, now⟩ := always_snoc.mp retries
    obtain ⟨stage, stands, few⟩ := ih before
    obtain ⟨later, stands, more⟩ := stands.after (sound_run outset moves) now
    refine ⟨later, run_snoc moves m ▸ stands, ?_⟩
    rw [tally_snoc, tally_snoc]
    omega

/-- For a binding whose passes are tried again, one token is made at most, and one more for each link
that is lost between the making of the token and the write of the label. -/
theorem makes_le_loses (outset : Cluster.Outset) {k : Key} {moves : List Move}
    (retries : Always outset (Retries k) moves) :
    tally outset makes moves ≤ tally outset loses moves + 1 := by
  obtain ⟨stage, -, few⟩ := exists_stage moves retries
  have one : stage.made ≤ 1 := by cases stage <;> simp [Stage.made]
  omega

/-- A provider that finds no token. -/
def finding : Chance := .calm fun _ r => match r with
  | .lookup _ => .ok none
  | .validate _ _ => .error (.unavailable "")
  | .persist _ _ => .error (.unavailable "")

/-- A pass makes a token for a binding and cannot write the label. The next one knows nothing of that
token. -/
def lostLink : List Move :=
  let binding : Binding := .fresh (.named "dev" "ci") "https://git.example/a/b" .none
  let desk : BindingDesk := ⟨[⟨default, "https://git.example", fun _ => []⟩]⟩
  [.outside (.bindings (.create binding)), .begins (.binding desk binding.key),
    .answered 0 finding, .answered 0 finding, .answered 0 finding,
    .answered 0 { finding with refusal := some (.unavailable "") },
    .begins (.binding desk binding.key), .answered 1 finding, .answered 1 finding,
    .answered 1 finding, .answered 1 finding, .answered 1 finding]

/-- One link is lost there, so two tokens may be made. -/
theorem makes_le_loses_lostLink : Always (.serial 0) (Retries ⟨"dev", "ci"⟩) lostLink ∧
    tally (.serial 0) loses lostLink = 1 ∧
      tally (.serial 0) makes lostLink ≤ tally (.serial 0) loses lostLink + 1 := by
  have retries : Always (.serial 0) (Retries ⟨"dev", "ci"⟩) lostLink := by decide +kernel
  have lost : tally (.serial 0) loses lostLink = 1 := by decide +kernel
  exact ⟨retries, lost, makes_le_loses (.serial 0) retries⟩

/-- More than one token can be made for a binding. -/
theorem exists_makes_twice : Always (.serial 0) (Retries ⟨"dev", "ci"⟩) lostLink ∧
    tally (.serial 0) makes lostLink = 2 ∧ (run (.serial 0) lostLink).cluster.tokens.size = 2 := by
  decide +kernel

end Traffic

end TokenSteward
