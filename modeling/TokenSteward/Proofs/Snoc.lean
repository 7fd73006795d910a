/-! # Lists that grow at their end

Keys join a queue, exchanges a pass, and writers the works at the end of a list.
-/

namespace TokenSteward

variable {α : Type} {l : List α} {a : α}

/-- What holds of all items holds of all after another of which it holds. -/
theorem forall_mem_snoc {P : α → Prop} (early : ∀ b ∈ l, P b) (last : P a) : ∀ b ∈ l ++ [a], P b := by
  intro b present
  rcases List.mem_append.mp present with here | there
  · exact early b here
  · rw [List.mem_singleton.mp there]
    exact last

/-- An item that is new to a list can join it. -/
theorem nodup_snoc (once : l.Nodup) (absent : a ∉ l) : (l ++ [a]).Nodup := by
  apply List.nodup_append.mpr
  refine ⟨once, by simp, ?_⟩
  rintro b present _ last rfl
  rw [List.mem_singleton.mp last] at present
  exact absent present

end TokenSteward
