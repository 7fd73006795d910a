import Mathlib.Data.List.Induction
import TokenSteward.Pass.Binding
import TokenSteward.Pass.Token
import TokenSteward.Pass.Update
import TokenSteward.Proofs.Cluster.Chances
import TokenSteward.Proofs.Pass.Discipline

/-! # Passes among each other

Any number of passes are under way over one cluster, and users make requests of their own. A run is
a list of moves: a pass begins, one that is under way gets the answer to what it asks, someone
outside asks for something, the clock is set. Since any move may follow any other, the runs are all
orders in which passes and users can come between each other. A pass that was given up is one that
is not answered any more.

A discipline that every pass obeys when it begins, and whose knowledge stays true of the run, holds
of every pass at every point of every run.
-/

namespace TokenSteward

open TokenSteward.Cluster TokenSteward.Resource

/-- What a pass is sent over: a token, a binding or a data update. -/
inductive Errand where
  | token (d : TokenDesk) (k : Key)
  | binding (d : BindingDesk) (k : Key)
  | update (d : UpdateDesk) (k : Key)

/-- The pass of an errand. -/
def Errand.pass : Errand → Pass Action
  | .token d k => d.pass k
  | .binding d k => d.pass k
  | .update d k => d.pass k

/-- A move of a run. Passes are known by the order in which they began. -/
inductive Move where
  | begins (e : Errand)
  | answered (i : Nat) (x : Chance)
  | outside (r : Request)
  | time (clock : Int64)

/-- The key of the token whose deletion someone outside requests by a move. -/
def Move.deletion? : Move → Option Key
  | .outside (.tokens (.delete k)) => some k
  | _ => none

/-- The token that someone outside writes by a move. -/
def Move.edit? : Move → Option AccessToken
  | .outside (.tokens (.update o)) => some o
  | _ => none

/-- A cluster and the passes that have begun. -/
structure Traffic where
  cluster : Cluster
  passes : List (Pass Action)

namespace Traffic

/-- What a move makes of the traffic. -/
def after (t : Traffic) : Move → Traffic
  | .begins e => { t with passes := t.passes ++ [e.pass] }
  | .answered i x =>
    match t.passes[i]? with
    | some (.ask r next) =>
      ⟨(t.cluster.answer x r).2, t.passes.set i (next (t.cluster.answer x r).1)⟩
    | _ => t
  | .outside r => { t with cluster := (t.cluster.answer .quiet r).2 }
  | .time clock => { t with cluster := { t.cluster with clock := clock } }

/-- The traffic after some moves, from a cluster without objects and records. -/
def run (outset : Cluster.Outset) (moves : List Move) : Traffic := moves.foldl after ⟨.empty outset, []⟩

variable {outset : Cluster.Outset}

theorem run_append (first second : List Move) :
    run outset (first ++ second) = second.foldl after (run outset first) := by
  simp only [run, List.foldl_append]

theorem run_snoc (moves : List Move) (m : Move) :
    run outset (moves ++ [m]) = (run outset moves).after m := by
  rw [run_append, List.foldl_cons, List.foldl_nil]

/-- What holds before each move of a run, of the traffic then and the move. -/
def Along (holds : Traffic → Move → Prop) : Traffic → List Move → Prop
  | _, [] => True
  | t, m :: rest => holds t m ∧ Along holds (t.after m) rest

instance decidableAlong {holds : Traffic → Move → Prop} [∀ t m, Decidable (holds t m)] :
    (t : Traffic) → (moves : List Move) → Decidable (Along holds t moves)
  | _, [] => .isTrue trivial
  | t, m :: rest =>
    have : Decidable (Along holds (t.after m) rest) := decidableAlong (t.after m) rest
    inferInstanceAs (Decidable (_ ∧ _))

/-- What holds before each move of a run from a cluster without objects and records. -/
def Always (outset : Cluster.Outset) (holds : Traffic → Move → Prop) (moves : List Move) : Prop :=
  Along holds ⟨.empty outset, []⟩ moves

instance {holds : Traffic → Move → Prop} [∀ t m, Decidable (holds t m)] (moves : List Move) :
    Decidable (Always outset holds moves) :=
  decidableAlong _ _

theorem always_snoc {holds : Traffic → Move → Prop} {moves : List Move} {m : Move} :
    Always outset holds (moves ++ [m]) ↔ Always outset holds moves ∧ holds (run outset moves) m := by
  simp only [Always, run]
  generalize (⟨.empty outset, []⟩ : Traffic) = t
  induction moves generalizing t with
  | nil => simp [Along]
  | cons first rest ih => simp [Along, ih, and_assoc]

/-- The request that a move has carried out, unless it fails by chance. -/
inductive Serves (t : Traffic) : Move → Chance → Request → Prop where
  | answered {i : Nat} {x : Chance} {r : Request} {next : r.Answer → Pass Action}
      (asks : t.passes[i]? = some (.ask r next)) : Serves t (.answered i x) x r
  | outside {r : Request} : Serves t (.outside r) .quiet r

/-- A move leaves the cluster as it is but for the clock, or has a request carried out. -/
theorem after_cases (t : Traffic) (m : Move) :
    (∃ clock, (t.after m).cluster = { t.cluster with clock := clock }) ∨
      ∃ x r, t.Serves m x r ∧ (t.after m).cluster = (t.cluster.answer x r).2 := by
  cases m with
  | begins e => exact .inl ⟨t.cluster.clock, rfl⟩
  | answered i x =>
    simp only [after]
    split
    · next r next asks => exact .inr ⟨x, r, .answered asks, rfl⟩
    · exact .inl ⟨t.cluster.clock, rfl⟩
  | outside r => exact .inr ⟨_, r, .outside, rfl⟩
  | time clock => exact .inl ⟨clock, rfl⟩

theorem sound_after {t : Traffic} (sound : t.cluster.Sound) (m : Move) :
    (t.after m).cluster.Sound := by
  rcases t.after_cases m with ⟨clock, same⟩ | ⟨x, r, _, served⟩
  · rw [same]
    exact ⟨sound.tokens, sound.bindings, sound.updates⟩
  · rw [served]
    exact sound.answer x r

theorem sound_run (outset : Cluster.Outset) (moves : List Move) : (run outset moves).cluster.Sound := by
  induction moves using List.reverseRecOn with
  | nil => exact Cluster.sound_empty outset
  | append_singleton moves m ih =>
    rw [run_snoc]
    exact sound_after ih m

theorem change_tokens {t : Traffic} (sound : t.cluster.Sound) (m : Move) :
    Store.Change t.cluster.tokens (t.after m).cluster.tokens := by
  rcases t.after_cases m with ⟨clock, same⟩ | ⟨x, r, _, served⟩
  · rw [same]
    exact .kept
  · rw [served]
    exact sound.change_tokens x r

/-- A token that was stored once stays a copy of what is stored under its version. -/
theorem snapshot_run {read : List Move} {k : Key} {t : AccessToken}
    (stored : (run outset read).cluster.tokens.get? k = some t) (later : List Move) :
    (run outset (read ++ later)).cluster.tokens.Snapshot t := by
  induction later using List.reverseRecOn with
  | nil =>
    rw [List.append_nil]
    exact (sound_run outset read).tokens.snapshot stored
  | append_singleton later m ih =>
    rw [← List.append_assoc, run_snoc]
    exact ih.change (change_tokens (sound_run outset _) m)

/-- A token that is stored at two points of a run is stored at every point between them. -/
theorem stored_between {read middle late : List Move} {k : Key} {t : AccessToken}
    (first : (run outset read).cluster.tokens.get? k = some t)
    (last : (run outset (read ++ middle ++ late)).cluster.tokens.get? k = some t) :
    (run outset (read ++ middle)).cluster.tokens.get? k = some t := by
  induction late using List.reverseRecOn with
  | nil => rwa [List.append_nil] at last
  | append_singleton late m ih =>
    rw [← List.append_assoc, run_snoc] at last
    apply ih
    have copy : (run outset (read ++ (middle ++ late))).cluster.tokens.Snapshot t :=
      snapshot_run first _
    rw [← List.append_assoc] at copy
    exact copy.stored_before (change_tokens (sound_run outset _) m) last

/-! ## Guided passes -/

/-- What a discipline knows of a pass stays true if it is true at the beginning, is kept by every
move, and is learnt from the answers. Then every pass obeys at every point. -/
theorem guided {κ : Type} (d : Discipline κ) (fits : List Move → Nat → κ → Prop)
    (begins : ∀ moves (e : Errand), ∃ known, fits moves (run outset moves).passes.length known ∧
      e.pass.Obeys d (fun _ _ => True) known)
    (kept : ∀ moves m i known, fits moves i known → fits (moves ++ [m]) i known)
    (learnt : ∀ moves x i r next known, (run outset moves).passes[i]? = some (.ask r next) →
      fits moves i known → d.allows known r →
        ∃ later, d.leads known r ((run outset moves).cluster.answer x r).1 later ∧
          fits (moves ++ [.answered i x]) i later)
    (moves : List Move) {i : Nat} {p : Pass Action} (under : (run outset moves).passes[i]? = some p) :
    ∃ known, fits moves i known ∧ p.Obeys d (fun _ _ => True) known := by
  induction moves using List.reverseRecOn generalizing i p with
  | nil => simp [run] at under
  | append_singleton moves m ih =>
    have others {j : Nat} {q : Pass Action} (under : (run outset moves).passes[j]? = some q) :
        ∃ known, fits (moves ++ [m]) j known ∧ q.Obeys d (fun _ _ => True) known := by
      obtain ⟨known, fit, obeys⟩ := ih under
      exact ⟨known, kept _ _ _ _ fit, obeys⟩
    rw [run_snoc] at under
    cases m with
    | begins e =>
      simp only [after, List.getElem?_append] at under
      split at under
      · exact others under
      · next last =>
        obtain ⟨here, rfl⟩ : i - (run outset moves).passes.length = 0 ∧ e.pass = p := by
          rw [List.getElem?_singleton] at under
          split at under
          · next zero => exact ⟨zero, Option.some.inj under⟩
          · contradiction
        obtain rfl : i = (run outset moves).passes.length := by omega
        obtain ⟨known, fit, obeys⟩ := begins moves e
        exact ⟨known, kept _ _ _ _ fit, obeys⟩
    | answered j x =>
      simp only [after] at under
      split at under
      · next r next asks =>
        by_cases here : i = j
        · subst here
          obtain ⟨known, fit, allows, goesOn⟩ := ih asks
          obtain ⟨later, leads, fit⟩ := learnt moves x i r next known asks fit allows
          have inRange := (List.getElem?_eq_some_iff.mp asks).choose
          rw [List.getElem?_set_self inRange] at under
          obtain rfl := Option.some.inj under
          exact ⟨later, fit, goesOn _ _ leads⟩
        · rw [List.getElem?_set_ne (Ne.symm here)] at under
          exact others under
      · exact others under
    | outside r => exact others under
    | time clock => exact others under

end Traffic

end TokenSteward
