import TokenSteward.Proofs.Rest.Consuming
import TokenSteward.Proofs.Rest.Tidy
import TokenSteward.Proofs.Works.Run

/-! # The desks of an operator

An operator of checked settings works with three desks, each with a controller and a queue of its own.
Whatever comes between, each of its tasks is in the midst of a pass that fits its desk: who gathers
keys does nothing but list, a pass over a token is tidy, one over a binding leaves records and data
updates alone, and one over a data update deletes it only after it has told of the token.
-/

namespace TokenSteward

open TokenSteward.Cluster TokenSteward.Resource TokenSteward.Provider TokenSteward.Controller

/-- The controllers of an operator of checked settings run the passes over objects. -/
theorem Controller.Operator.eq_of_ofSettings {registry : Registry} {s : Settings} {first : Nat}
    {o : Operator} (built : Operator.ofSettings registry s first = .ok o) :
    ∃ links, s.linkBuilder? = .ok links ∧ o = ⟨
      .fresh .accessToken .tokens [⟨.bindings, .released⟩]
        (fun k _ => TokenDesk.pass ⟨registry, links, .seconds s.recheckSecs.toNat⟩ k) s.tuning first,
      .fresh .binding .bindings [⟨.tokens, .dependents⟩] (fun k _ => BindingDesk.pass ⟨registry⟩ k)
        s.tuning (first + 1),
      .fresh .dataUpdate .updates [] (fun k _ => UpdateDesk.pass ⟨first⟩ k) s.tuning (first + 2)⟩ := by
  unfold Operator.ofSettings at built
  cases valid : s.validate with
  | error f => simp [valid, Bind.bind, Except.bind] at built
  | ok u =>
    cases found : s.linkBuilder? with
    | error f => simp [valid, found, Bind.bind, Except.bind] at built
    | ok links =>
      simp only [valid, found, Bind.bind, Except.bind, Except.ok.injEq] at built
      exact ⟨links, rfl, built.symm⟩

/-- The desks of an operator, and how its controllers work. -/
structure Desks where
  tokens : TokenDesk
  bindings : BindingDesk
  tuning : Tuning

namespace Desks

/-- The controller of tokens. -/
def tokenController (d : Desks) : Controller :=
  .fresh .accessToken .tokens [⟨.bindings, .released⟩] (fun k _ => d.tokens.pass k) d.tuning 1

/-- The controller of bindings. -/
def bindingController (d : Desks) : Controller :=
  .fresh .binding .bindings [⟨.tokens, .dependents⟩] (fun k _ => d.bindings.pass k) d.tuning 2

/-- The desk of data updates, which feeds the queue of tokens. -/
def updates : UpdateDesk := ⟨1⟩

/-- The controller of data updates. -/
def updateController (d : Desks) : Controller :=
  .fresh .dataUpdate .updates [] (fun k _ => updates.pass k) d.tuning 3

/-- The operator with some desks. -/
def operator (d : Desks) : Operator := ⟨d.tokenController, d.bindingController, d.updateController⟩

/-- The controllers of an operator in their order. -/
def team (d : Desks) : List Controller :=
  [d.tokenController, d.bindingController, d.updateController]

/-- The operator of checked settings has desks. -/
theorem exists_desks {registry : Registry} {s : Settings} {o : Operator}
    (built : Operator.ofSettings registry s 1 = .ok o) : ∃ d : Desks, o = d.operator ∧
      d.tokens.registry = registry ∧ d.bindings.registry = registry ∧
      s.linkBuilder? = .ok d.tokens.links := by
  obtain ⟨links, found, rfl⟩ := Operator.eq_of_ofSettings built
  exact ⟨⟨⟨registry, links, .seconds s.recheckSecs.toNat⟩, ⟨registry⟩, s.tuning⟩, rfl, rfl, rfl, found⟩

section

variable {d : Desks} {i : Nat} {c : Controller}

theorem member_cases (member : d.team[i]? = some c) : (i = 0 ∧ c = d.tokenController) ∨
    (i = 1 ∧ c = d.bindingController) ∨ (i = 2 ∧ c = d.updateController) := by
  rcases i with _ | _ | _ | i
  · exact .inl ⟨rfl, (Option.some.inj member).symm⟩
  · exact .inr (.inl ⟨rfl, (Option.some.inj member).symm⟩)
  · exact .inr (.inr ⟨rfl, (Option.some.inj member).symm⟩)
  · simp [team] at member

theorem queue_of_member (member : d.team[i]? = some c) : c.queue = i + 1 ∧ i < 3 := by
  rcases member_cases member with ⟨rfl, rfl⟩ | ⟨rfl, rfl⟩ | ⟨rfl, rfl⟩ <;> exact ⟨rfl, by decide⟩

end

/-! ## The start -/

variable (d : Desks) (c : Cluster) (jitter : Nat → Jitter)

theorem start_task (id : Nat) : (Works.start d.operator c jitter).machine.core.task id =
    if id = 0 then .launch [0, 1, 2] else .finished := by
  rcases id with _ | id <;> rfl

theorem start_queue (q : Nat) : (Works.start d.operator c jitter).machine.core.queue q = .empty := by
  rcases q with _ | _ | _ | _ | q <;> rfl

variable {c}

/-- The works of an operator go on from the start. -/
theorem running_start (kept : c.Kept) : (Works.start d.operator c jitter).Running d.team := by
  have idle {j i : Nat} {k : Key} : ¬ Busy (Works.start d.operator c jitter).machine.core j i k := by
    rintro ⟨p, since, resting, busy⟩
    rw [start_task] at busy
    split at busy <;> cases busy
  refine ⟨rfl, ⟨Machine.fits_core _, fun q => ?_, fun q => ?_, fun busy => absurd busy idle,
    fun busy => absurd busy idle⟩, ⟨fun first second same => ?_, fun member => ?_, fun j q takes => ?_⟩,
    kept, fun j present => (List.not_mem_nil present).elim, fun member => .inl ⟨0, _, rfl, ?_⟩⟩
  · rw [start_queue]
    rfl
  · rw [start_queue]
    exact Queue.sound_empty
  · have one := (queue_of_member first).1
    have two := (queue_of_member second).1
    omega
  · have inside := queue_of_member member
    change _ < 4
    omega
  · rw [start_task] at takes
    split at takes <;> cases takes
  · have inside := (queue_of_member member).2
    exact List.mem_range.mpr inside

end Desks

end TokenSteward
