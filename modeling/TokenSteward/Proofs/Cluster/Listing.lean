import TokenSteward.Proofs.Cluster.Versions

/-! # Listings

A listing holds the stored objects of a namespace whose labels pass a selector, and nothing else.
-/

namespace TokenSteward

variable {κ ν : Type} [Ordered κ]

theorem Table.mem_of_lookup {k : κ} {v : ν} {entries : List (κ × ν)}
    (found : lookup k entries = some v) : (k, v) ∈ entries := by
  induction entries with
  | nil => simp [lookup] at found
  | cons head rest ih =>
    obtain ⟨a, w⟩ := head
    simp only [lookup] at found
    split at found
    · exact List.mem_cons_of_mem _ (ih found)
    · next left =>
      split at found
      · contradiction
      · next right =>
        obtain rfl := Option.some.inj found
        obtain rfl : a = k := Ordered.same (by simpa using left) (by simpa using right)
        exact List.mem_cons_self

theorem Table.lookup_of_mem {k : κ} {v : ν} {entries : List (κ × ν)} (ordered : Ascending entries)
    (present : (k, v) ∈ entries) : lookup k entries = some v := by
  induction entries with
  | nil => simp at present
  | cons head rest ih =>
    obtain ⟨a, w⟩ := head
    obtain ⟨first, later⟩ := List.pairwise_cons.mp ordered
    rcases List.mem_cons.mp present with here | behind
    · obtain ⟨rfl, rfl⟩ := Prod.mk.inj here
      simp [lookup, Ordered.irrefl]
    · have ahead : before a k = true := first (k, v) behind
      simp [lookup, ahead, ih later behind]

theorem Table.mem_values {t : Table κ ν} {v : ν} : v ∈ t.values ↔ ∃ k, t.get? k = some v := by
  simp only [values, List.mem_map]
  constructor
  · rintro ⟨⟨k, v⟩, present, rfl⟩
    exact ⟨k, lookup_of_mem t.ascending present⟩
  · rintro ⟨k, found⟩
    exact ⟨(k, v), mem_of_lookup found, rfl⟩

namespace Cluster

open TokenSteward.Resource

variable {σ τ : Type}

theorem Store.mem_list {s : Store σ τ} {space : Option String} {wanted : Selector} {o : Object σ τ} :
    o ∈ s.list space wanted ↔ (∃ k, s.get? k = some o) ∧
      (∀ name, space = some name → o.metadata.space = name) ∧
      wanted.selects o.metadata.labels = true := by
  simp only [list, List.mem_filter, Bool.and_eq_true, Table.mem_values, get?]
  refine and_congr_right fun _ => and_congr_left fun _ => ?_
  cases space with
  | none => simp
  | some name => simp

/-- A listing of everything holds all that is stored. -/
theorem Store.mem_list_everything {s : Store σ τ} {k : Key} {o : Object σ τ} (stored : s.get? k = some o) :
    o ∈ s.list none Selector.everything :=
  mem_list.mpr ⟨⟨k, stored⟩, by simp, rfl⟩

theorem selects_only {name value : String} {labels : Labels} :
    (Selector.only name value).selects labels = true ↔ labels.get? name = some value := by
  have entries : (Selector.only name value).entries = [(name, value)] := rfl
  simp [Selector.selects, entries]

end Cluster

end TokenSteward
