import TokenSteward.Controller.Watch
import TokenSteward.Proofs.Cluster.Chances
import TokenSteward.Proofs.Cluster.Listing
import TokenSteward.Proofs.Pass.Discipline

/-! # What followers are told

The events of a store are numbered in the order in which they came about. What was told once stays
told under its number, and each change of what lies at a key is told under the next number, as an
event about that key. A listing brings the keys of all objects that are there.
-/

namespace TokenSteward

open TokenSteward.Resource

namespace Cluster.Store

variable {σ τ : Type} {s s' : Store σ τ}

/-- The key that the event with a number is about. -/
def told (s : Store σ τ) (n : Nat) : Option Key := (s.change? n).map (·.object.key)

theorem lt_published_of_told {n : Nat} {k : Key} (told : s.told n = some k) : n < s.published := by
  by_cases early : n < s.published
  · exact early
  · simp [Store.told, change?, early] at told

theorem change?_of_history {e : Event σ τ} (grown : s'.history = e :: s.history) {n : Nat}
    (early : n < s.published) : s'.change? n = s.change? n := by
  have longer : s'.published = s.published + 1 := by simp [published, grown]
  have index : s'.published - 1 - n = (s.published - 1 - n) + 1 := by omega
  rw [change?, change?, if_pos early, if_pos (by omega), index, grown, List.getElem?_cons_succ]

theorem Change.told_kept (change : Change s s') {n : Nat} {k : Key} (told : s.told n = some k) :
    s'.told n = some k := by
  rcases change.history with same | ⟨e, grown⟩
  · rw [Store.told, change?, published, same]
    exact told
  · rw [Store.told, change?_of_history grown (lt_published_of_told told)]
    exact told

theorem Change.published_le (change : Change s s') : s.published ≤ s'.published := by
  rcases change.history with same | ⟨e, grown⟩
  · simp [published, same]
  · simp [published, grown]

/-- A change of what lies at a key is told under the next number. -/
theorem Change.told_next (change : Change s s') {k : Key} (differs : s'.get? k ≠ s.get? k) :
    s'.told s.published = some k := by
  obtain ⟨e, about, grown⟩ := change.told differs
  have next : s'.change? s.published = some e := by
    simp [change?, published, grown]
  rw [Store.told, next, Option.map_some, about]

/-- A follower who is not told anything has seen everything. -/
theorem follow_cases (s : Store σ τ) (seen : Nat) :
    (∃ e, s.follow seen = (.change e, seen + 1) ∧ s.told seen = some e.object.key) ∨
      (∃ count later, s.follow seen = (.missed count, later) ∧ later ≤ s.published) ∨
      (s.follow seen = (.nothing, seen) ∧ s.published ≤ seen) := by
  unfold follow
  split
  · exact .inr (.inl ⟨_, _, rfl, Nat.sub_le _ _⟩)
  · split
    · next e here => exact .inl ⟨e, rfl, by simp [Store.told, here]⟩
    · next none =>
      refine .inr (.inr ⟨rfl, ?_⟩)
      by_cases early : seen < s.published
      · have inside : s.published - 1 - seen < s.history.length := by
          simp only [published] at early ⊢
          omega
        simp [change?, early, inside] at none
      · omega

end Cluster.Store

namespace Controller

open TokenSteward.Cluster

namespace Source

/-- The key that the event of a store with a number is about. -/
def told (s : Source) (c : Cluster) (n : Nat) : Option Key :=
  match s with
  | .tokens => c.tokens.told n
  | .bindings => c.bindings.told n
  | .updates => c.updates.told n

/-- An object lies at a key of a store. -/
def Holds (s : Source) (c : Cluster) (k : Key) : Prop :=
  match s with
  | .tokens => ∃ o, c.tokens.get? k = some o
  | .bindings => ∃ o, c.bindings.get? k = some o
  | .updates => ∃ o, c.updates.get? k = some o

/-- What lies at a key of a store is not the same in two clusters. -/
def Differs (s : Source) (c c' : Cluster) (k : Key) : Prop :=
  match s with
  | .tokens => c'.tokens.get? k ≠ c.tokens.get? k
  | .bindings => c'.bindings.get? k ≠ c.bindings.get? k
  | .updates => c'.updates.get? k ≠ c.updates.get? k

variable {s : Source} {c : Cluster} {k : Key} {n : Nat}

theorem lt_published_of_told (told : s.told c n = some k) : n < s.published c := by
  cases s <;> exact Store.lt_published_of_told told

theorem told_answer (sound : c.Sound) (x : Chance) (r : Request) (told : s.told c n = some k) :
    s.told (c.answer x r).2 n = some k := by
  cases s with
  | tokens => exact (sound.change_tokens x r).told_kept told
  | bindings => exact (sound.change_bindings x r).told_kept told
  | updates => exact (sound.change_updates x r).told_kept told

theorem published_answer_le (sound : c.Sound) (x : Chance) (r : Request) :
    s.published c ≤ s.published (c.answer x r).2 := by
  cases s with
  | tokens => exact (sound.change_tokens x r).published_le
  | bindings => exact (sound.change_bindings x r).published_le
  | updates => exact (sound.change_updates x r).published_le

/-- An answer that changes what lies at a key tells so under the next number. -/
theorem told_next_answer (sound : c.Sound) {x : Chance} {r : Request}
    (differs : s.Differs c (c.answer x r).2 k) :
    s.told (c.answer x r).2 (s.published c) = some k := by
  cases s with
  | tokens => exact (sound.change_tokens x r).told_next differs
  | bindings => exact (sound.change_bindings x r).told_next differs
  | updates => exact (sound.change_updates x r).told_next differs

/-- What a follower sees: the event with the next number, that it has missed some, or nothing. -/
theorem follow_cases (s : Source) (c : Cluster) (seen : Nat) :
    (∃ e, s.follow c seen = (.change e, seen + 1) ∧ s.told c seen = some e.key) ∨
      (∃ later, s.follow c seen = (.missed, later) ∧ later ≤ s.published c) ∨
      (s.follow c seen = (.nothing, seen) ∧ s.published c ≤ seen) := by
  cases s with
  | tokens =>
    rcases c.tokens.follow_cases seen with ⟨e, sees, told⟩ | ⟨_, later, sees, le⟩ | ⟨sees, le⟩
    · exact .inl ⟨.token e, by simp only [follow, sees], told⟩
    · exact .inr (.inl ⟨later, by simp only [follow, sees], le⟩)
    · exact .inr (.inr ⟨by simp only [follow, sees], le⟩)
  | bindings =>
    rcases c.bindings.follow_cases seen with ⟨e, sees, told⟩ | ⟨_, later, sees, le⟩ | ⟨sees, le⟩
    · exact .inl ⟨.binding e, by simp only [follow, sees], told⟩
    · exact .inr (.inl ⟨later, by simp only [follow, sees], le⟩)
    · exact .inr (.inr ⟨by simp only [follow, sees], le⟩)
  | updates =>
    rcases c.updates.follow_cases seen with ⟨e, sees, told⟩ | ⟨_, later, sees, le⟩ | ⟨sees, le⟩
    · exact .inl ⟨.update e, by simp only [follow, sees], told⟩
    · exact .inr (.inl ⟨later, by simp only [follow, sees], le⟩)
    · exact .inr (.inr ⟨by simp only [follow, sees], le⟩)

/-! ## Listings -/

/-- Listing changes nothing. -/
theorem Lists.answer {r : Request} (lists : Lists r) (c : Cluster) (x : Chance) :
    (c.answer x r).2 = c := by
  cases lists <;> simp only [Cluster.answer] <;> split <;> rfl

theorem asks_listing (s : Source) : s.listing.Asks Lists := by
  cases s <;> refine (Pass.asks_attempt ?_).bind fun found => ?_
  · exact .tokens none Selector.everything
  · split <;> exact Pass.asks_pure _
  · exact .bindings none Selector.everything
  · split <;> exact Pass.asks_pure _
  · exact .updates none Selector.everything
  · split <;> exact Pass.asks_pure _

theorem asks_allKeys (s : Source) : s.allKeys.Asks Lists :=
  (asks_listing s).bind fun _ => Pass.asks_pure _

/-- A pass that lists all keys of a store asks once, and if it is answered it has the keys of all
that is there. -/
theorem allKeys_eq (s : Source) : ∃ r next, s.allKeys = .ask r next ∧ Lists r ∧
    ∀ (c : Cluster) (x : Chance), c.Sound → x.refusal = none →
      ∃ keys, next (c.answer x r).1 = .done keys ∧ ∀ k, s.Holds c k → k ∈ keys := by
  cases s with
  | tokens =>
    refine ⟨.tokens (.list none Selector.everything), _, rfl, .tokens _ _, ?_⟩
    intro c x sound calm
    refine ⟨(c.tokens.list none Selector.everything).map Object.key, ?_, ?_⟩
    · simp only [Cluster.answer, calm, Store.perform, Pass.andThen, pure, List.map_map]
      rfl
    · rintro k ⟨o, here⟩
      exact List.mem_map.mpr ⟨o, Store.mem_list_everything here, sound.tokens.filed here⟩
  | bindings =>
    refine ⟨.bindings (.list none Selector.everything), _, rfl, .bindings _ _, ?_⟩
    intro c x sound calm
    refine ⟨(c.bindings.list none Selector.everything).map Object.key, ?_, ?_⟩
    · simp only [Cluster.answer, calm, Store.perform, Pass.andThen, pure, List.map_map]
      rfl
    · rintro k ⟨o, here⟩
      exact List.mem_map.mpr ⟨o, Store.mem_list_everything here, sound.bindings.filed here⟩
  | updates =>
    refine ⟨.updates (.list none Selector.everything), _, rfl, .updates _ _, ?_⟩
    intro c x sound calm
    refine ⟨(c.updates.list none Selector.everything).map Object.key, ?_, ?_⟩
    · simp only [Cluster.answer, calm, Store.perform, Pass.andThen, pure, List.map_map]
      rfl
    · rintro k ⟨o, here⟩
      exact List.mem_map.mpr ⟨o, Store.mem_list_everything here, sound.updates.filed here⟩

end Source

/-- A follower of its own kind of objects takes each change as one of its own key. -/
theorem Mapper.allKeys_own (changes : List Change) :
    Mapper.own.allKeys changes = pure (changes.map Change.key) := by
  induction changes with
  | nil => rfl
  | cons e rest ih =>
    simp only [allKeys, ih, keys]
    rfl

/-- Who has missed changes of its own kind of objects lists them all. -/
theorem Watch.relist_own (s : Source) : Watch.relist ⟨s, .own⟩ = s.allKeys := by
  simp only [relist, Source.allKeys, Mapper.allKeys_own]

theorem Mapper.asks_keys (m : Mapper) (e : Change) : (m.keys e).Asks Source.Lists := by
  have brief := m.brief_keys e
  generalize m.keys e = asked at brief ⊢
  cases brief with
  | atOnce keys => exact Pass.asks_pure _
  | listing lists knows =>
    refine ⟨lists, fun answer _ _ => ?_⟩
    obtain ⟨keys, known⟩ := knows answer
    rw [known]
    exact Pass.asks_pure _

theorem Watch.asks_relist (w : Watch) : w.relist.Asks Source.Lists := by
  apply (Source.asks_listing w.source).bind
  intro changes
  induction changes with
  | nil => exact Pass.asks_pure _
  | cons e rest ih =>
    exact (w.mapper.asks_keys e).bind fun first => ih.bind fun more => Pass.asks_pure _

end Controller

end TokenSteward
