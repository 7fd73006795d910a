import Mathlib.Data.List.Forall2

/-! # What was put together has succeeded part by part

A computation that can fail and goes on with another has succeeded only if both have; one that goes through
a list, only if it has at each item.
-/

namespace TokenSteward

theorem exists_of_bind_eq_ok {ε α β : Type} {x : Except ε α} {f : α → Except ε β} {b : β}
    (read : x >>= f = .ok b) : ∃ a, x = .ok a ∧ f a = .ok b := by
  cases x with
  | error => contradiction
  | ok a => exact ⟨a, rfl, read⟩

theorem forall₂_of_mapM {α β : Type} {f : α → Option β} {all : List α} {bs : List β}
    (read : all.mapM f = some bs) : List.Forall₂ (fun a b => f a = some b) all bs := by
  induction all generalizing bs with
  | nil =>
    cases read
    exact .nil
  | cons a all ih =>
    simp only [List.mapM_cons, Option.bind_eq_bind, Option.pure_def, Option.bind_eq_some_iff] at read
    obtain ⟨b, here, rest, there, whole⟩ := read
    obtain rfl := Option.some.inj whole
    exact .cons here (ih there)

/-- What is made of the items of a list one by one is made of one of them. -/
theorem exists_of_mem_mapM {α β : Type} {f : α → Option β} {all : List α} {bs : List β}
    (read : all.mapM f = some bs) {b : β} (among : b ∈ bs) : ∃ a ∈ all, f a = some b := by
  have each := forall₂_of_mapM read
  clear read
  induction each with
  | nil => cases among
  | @cons a _ _ _ here _ ih =>
    rcases List.mem_cons.mp among with rfl | among
    · exact ⟨a, List.mem_cons_self, here⟩
    · obtain ⟨x, member, found⟩ := ih among
      exact ⟨x, List.mem_cons_of_mem a member, found⟩

end TokenSteward
