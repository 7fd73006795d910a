import TokenSteward.Proofs.Snoc
import TokenSteward.Queue.Basic

/-! # Keys in flight

A queue keeps apart the keys that wait and those that are handed out: a key waits at most once, each
key that waits is marked, and none of them is handed out. What an operation does to the marked keys
and to those handed out is told by one equation each.
-/

namespace TokenSteward

namespace Table

variable {κ ν : Type} [Ordered κ] [DecidableEq κ]

theorem contains_insert (t : Table κ ν) (k j : κ) (v : ν) :
    (t.insert k v).contains j = (decide (j = k) || t.contains j) := by
  by_cases here : j = k
  · subst here
    simp [contains]
  · simp [contains, here, get?_insert_of_ne t v (Ne.symm here)]

theorem contains_erase (t : Table κ ν) (k j : κ) :
    (t.erase k).contains j = (!decide (j = k) && t.contains j) := by
  by_cases here : j = k
  · subst here
    simp [contains]
  · simp [contains, here, get?_erase_of_ne t (Ne.symm here)]

end Table

namespace Queue

open TokenSteward.Resource

/-- What every operation keeps, if only a key that is handed out is given back. -/
structure Sound (q : Queue) : Prop where
  once : q.waiting.Nodup
  marked : ∀ k ∈ q.waiting, q.marked.contains k = true
  free : ∀ k ∈ q.waiting, q.processing.contains k = false

theorem sound_empty : Sound empty :=
  ⟨List.nodup_nil, fun _ present => by simp [empty] at present,
    fun _ present => by simp [empty] at present⟩

variable {q : Queue}

/-! ## Adding -/

theorem marked_add (opened : q.closed = false) (k j : Key) :
    (q.add k).1.marked.contains j = (decide (j = k) || q.marked.contains j) := by
  unfold add
  by_cases known : q.marked.contains k = true
  · by_cases here : j = k
    · subst here
      simp [known]
    · simp [known, here]
  · by_cases busy : q.processing.contains k = true
    · simp [opened, known, busy, Table.contains_insert]
    · simp [opened, known, busy, Table.contains_insert]

theorem processing_add (k : Key) : (q.add k).1.processing = q.processing := by
  unfold add
  split
  · rfl
  · dsimp only
    split <;> rfl

theorem closed_add (k : Key) : (q.add k).1.closed = q.closed := by
  unfold add
  split
  · rfl
  · dsimp only
    split <;> rfl

theorem Sound.add (sound : q.Sound) (k : Key) : (q.add k).1.Sound := by
  unfold Queue.add
  split
  · exact sound
  · next fresh =>
    have unmarked : q.marked.contains k = false := by
      simp only [Bool.or_eq_true, not_or, Bool.not_eq_true] at fresh
      exact fresh.2
    have kept : ∀ j ∈ q.waiting, (q.marked.insert k ()).contains j = true := by
      intro j present
      rw [Table.contains_insert, sound.marked j present, Bool.or_true]
    dsimp only
    split
    · exact ⟨sound.once, kept, sound.free⟩
    · next idle =>
      refine ⟨?_, ?_, ?_⟩
      · apply nodup_snoc sound.once
        intro waits
        have := sound.marked k waits
        rw [unmarked] at this
        contradiction
      · apply forall_mem_snoc kept
        rw [Table.contains_insert]
        simp
      · apply forall_mem_snoc sound.free
        simpa using idle

/-! ## Taking -/

/-- The queue after its first key was taken. -/
def taken (q : Queue) (k : Key) (rest : List Key) : Queue :=
  { q with
    waiting := rest
    marked := q.marked.erase k
    processing := q.processing.insert k () }

/-- Taking brings the first key that waits, or finds nothing if the queue is open. -/
theorem take_cases (q : Queue) (opened : q.closed = false) :
    (∃ k rest, q.waiting = k :: rest ∧ q.take = (.key k, q.taken k rest)) ∨
      q.take = (.nothing, q) := by
  unfold take
  cases waiting : q.waiting with
  | nil => exact .inr (by simp [opened])
  | cons k rest => exact .inl ⟨k, rest, rfl, rfl⟩

theorem Sound.taken {k : Key} {rest : List Key} (sound : q.Sound) (waits : q.waiting = k :: rest) :
    (q.taken k rest).Sound := by
  have once := sound.once
  rw [waits, List.nodup_cons] at once
  have other : ∀ j ∈ rest, j ≠ k := fun j present same => once.1 (same ▸ present)
  have waited : ∀ j ∈ rest, j ∈ q.waiting := fun j present => waits ▸ List.mem_cons_of_mem k present
  refine ⟨once.2, ?_, ?_⟩
  · intro j present
    simp only [Queue.taken, Table.contains_erase, other j present, decide_false, Bool.not_false,
      Bool.true_and]
    exact sound.marked j (waited j present)
  · intro j present
    simp only [Queue.taken, Table.contains_insert, other j present, decide_false, Bool.false_or]
    exact sound.free j (waited j present)

/-! ## Giving back -/

theorem marked_done (k : Key) : (q.done k).1.marked = q.marked := by
  unfold done
  dsimp only
  split <;> rfl

theorem processing_done (k : Key) : (q.done k).1.processing = q.processing.erase k := by
  unfold done
  dsimp only
  split <;> rfl

theorem closed_done (k : Key) : (q.done k).1.closed = q.closed := by
  unfold done
  dsimp only
  split <;> rfl

theorem Sound.done {k : Key} (sound : q.Sound) (busy : q.processing.contains k = true) :
    (q.done k).1.Sound := by
  have gone : ∀ j ∈ q.waiting, (q.processing.erase k).contains j = false := by
    intro j present
    rw [Table.contains_erase, sound.free j present, Bool.and_false]
  unfold Queue.done
  dsimp only
  split
  · next again =>
    rw [Bool.and_eq_true] at again
    refine ⟨?_, ?_, ?_⟩
    · apply nodup_snoc sound.once
      intro waits
      have := sound.free k waits
      rw [busy] at this
      contradiction
    · exact forall_mem_snoc sound.marked again.1
    · apply forall_mem_snoc gone
      rw [Table.contains_erase]
      simp
  · exact ⟨sound.once, sound.marked, gone⟩

end Queue

end TokenSteward
