import TokenSteward.Controller.Machine

/-! # Scripted passes

For the rehearsal of a controller a script says what each pass over a key does, one pass after the
other. When the script has nothing more to say, passes succeed.
-/

namespace TokenSteward.Rehearsal

open TokenSteward.Cluster TokenSteward.Resource TokenSteward.Controller TokenSteward.Time

/-- What a scripted pass does: it may rest first, and ends with an action or a failure. -/
structure Cue where
  rest : Option Span
  ending : Except Failure Action

namespace Cue

/-- A pass that succeeds at once. -/
def plain : Cue := ⟨none, .ok .await⟩

/-- The end of a scripted pass. -/
def finish (c : Cue) : Pass Action :=
  match c.ending with
  | .ok a => .done a
  | .error f => .fail f

/-- The pass that a cue describes. -/
def pass (c : Cue) : Pass Action :=
  match c.rest with
  | none => c.finish
  | some span => .ask (.pause span) fun _ => c.finish

end Cue

/-- The cues for each key. -/
abbrev Script := Table Key (List Cue)

namespace Script

/-- The pass over a key that has had a number of passes before. -/
def pass (s : Script) (k : Key) (before : Nat) : Pass Action :=
  (((s.get? k).getD []).getD before .plain).pass

/-- A controller of the tokens whose passes are scripted. It may also follow the bindings, and then
looks at the tokens that they are linked to. -/
def controller (s : Script) (followsBindings : Bool) (t : Tuning) (queue : Nat) : Controller :=
  .fresh .accessToken .tokens (if followsBindings then [⟨.bindings, .linkedToken⟩] else [])
    s.pass t queue

end Script

/-- What was noted of the work: which passes were started or went on after a rest, how many are
going on, and how many went on at once at most. -/
structure Journal where
  lines : List String
  active : Nat
  mostActive : Nat

namespace Journal

/-- The journal of a time that began with a number of passes going on. -/
def since (active : Nat) : Journal := ⟨[], active, active⟩

/-- The journal with one more note. -/
def record (j : Journal) : Note → Journal
  | ⟨_, k, .started⟩ => ⟨j.lines ++ [k.text], j.active + 1, Nat.max j.mostActive (j.active + 1)⟩
  | ⟨_, k, .resumed⟩ => { j with lines := j.lines ++ [k.text ++ " slept"] }
  | ⟨_, _, .ended⟩ => { j with active := j.active - 1 }

end Journal

end TokenSteward.Rehearsal
