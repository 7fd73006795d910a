import TokenSteward.Proofs.Cluster.Versions

/-! # Calls of a store

A store is called time and again, each time with any request at any instant. What one call keeps, all
calls keep: a store that has come about by calls is sound, and has given out no more versions than
calls were made.
-/

namespace TokenSteward.Cluster

open TokenSteward.Resource

/-- A request that is made of a store at an instant. -/
structure Call (σ τ : Type) where
  now : Timestamp
  request : StoreRequest σ τ

namespace Store

variable {σ τ : Type} [DecidableEq τ] {s : Store σ τ}

/-- The store after a call. -/
def next (s : Store σ τ) (c : Call σ τ) : Store σ τ := (s.perform c.now c.request).2

/-- The store after some calls. -/
def after (s : Store σ τ) (calls : List (Call σ τ)) : Store σ τ := calls.foldl next s

/-- The store that has come about by some calls. -/
def ofCalls (kind : String) (draws : Draws) (calls : List (Call σ τ)) : Store σ τ := (empty kind draws).after calls

@[simp] theorem after_nil : s.after [] = s := rfl

@[simp] theorem after_cons (c : Call σ τ) (calls : List (Call σ τ)) :
    s.after (c :: calls) = (s.next c).after calls := rfl

theorem after_append (early late : List (Call σ τ)) :
    s.after (early ++ late) = (s.after early).after late :=
  List.foldl_append

theorem ofCalls_append (kind : String) (draws : Draws) (early late : List (Call σ τ)) :
    ofCalls kind draws (early ++ late) = (ofCalls kind draws early).after late :=
  after_append early late

theorem Sound.change_next (sound : s.Sound) (c : Call σ τ) : Change s (s.next c) :=
  change_perform sound c.now c.request

theorem Sound.next (sound : s.Sound) (c : Call σ τ) : (s.next c).Sound :=
  sound.change (sound.change_next c)

theorem Sound.after (sound : s.Sound) (calls : List (Call σ τ)) : (s.after calls).Sound := by
  induction calls generalizing s with
  | nil => exact sound
  | cons c calls ih => exact ih (sound.next c)

/-- What every call of a sound store keeps, all calls keep. -/
theorem Sound.kept {P : Store σ τ → Prop} (sound : s.Sound)
    (keeps : ∀ {t : Store σ τ}, t.Sound → P t → ∀ c, P (t.next c)) (start : P s)
    (calls : List (Call σ τ)) : P (s.after calls) := by
  induction calls generalizing s with
  | nil => exact start
  | cons c calls ih => exact ih (sound.next c) (keeps sound start c)

/-- Whatever a store was asked, it is sound. -/
theorem sound_ofCalls (kind : String) (draws : Draws) (calls : List (Call σ τ)) :
    (ofCalls kind draws calls).Sound :=
  (sound_empty kind draws).after calls

/-- A call gives out one version at most. -/
theorem Sound.version_next_le (sound : s.Sound) (c : Call σ τ) :
    (s.next c).version ≤ s.version + 1 := by
  generalize change : s.next c = s'
  cases change ▸ sound.change_next c with
  | kept => exact Nat.le_succ _
  | wrote _ wrote _ => exact Nat.le_of_eq wrote.version
  | removed _ _ _ _ _ => exact Nat.le_succ _

/-- No more versions are given out than calls are made. So a word of 64 bits holds them all as long as
there are fewer than `2 ^ 64` calls. -/
theorem Sound.version_after_le (sound : s.Sound) (calls : List (Call σ τ)) :
    (s.after calls).version ≤ s.version + calls.length := by
  induction calls generalizing s with
  | nil => exact Nat.le_refl _
  | cons c calls ih =>
    have rest := ih (sound.next c)
    have first := sound.version_next_le c
    rw [after_cons, List.length_cons]
    omega

end Store

end TokenSteward.Cluster
