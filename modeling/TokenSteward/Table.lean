/-! # Ordered tables

A table keeps one entry per key, in ascending order of the keys. The order is part of the type, so
two tables with the same look-ups are equal and listing a table needs no sorting.
-/

namespace TokenSteward

/-- A decidable strict total order. -/
class Ordered (κ : Type) where
  before : κ → κ → Bool
  irrefl : ∀ a, before a a = false
  trans : ∀ {a b c}, before a b = true → before b c = true → before a c = true
  same : ∀ {a b}, before a b = false → before b a = false → a = b

export Ordered (before)

instance : Ordered String where
  before a b := decide (a < b)
  irrefl a := by simp
  trans first second := by
    simp only [decide_eq_true_eq] at *
    exact String.lt_trans first second
  same left right := by
    simp only [decide_eq_false_iff_not] at *
    exact String.le_antisymm (String.not_lt.mp right) (String.not_lt.mp left)

/-- Pairs are ordered by their first part, of equal first parts by the second. -/
instance {α β : Type} [Ordered α] [Ordered β] : Ordered (α × β) where
  before p q := before p.1 q.1 || (!before q.1 p.1 && before p.2 q.2)
  irrefl p := by simp [Ordered.irrefl]
  trans {p q r} first second := by
    simp only [Bool.or_eq_true, Bool.and_eq_true, Bool.not_eq_true'] at *
    rcases first with left | ⟨notAfter, left⟩ <;> rcases second with right | ⟨notBehind, right⟩
    · exact .inl (Ordered.trans left right)
    · cases other : before q.1 r.1 with
      | true => exact .inl (Ordered.trans left other)
      | false => exact .inl (Ordered.same other notBehind ▸ left)
    · cases other : before p.1 q.1 with
      | true => exact .inl (Ordered.trans other right)
      | false => exact .inl (Ordered.same other notAfter ▸ right)
    · cases pq : before p.1 q.1 with
      | true =>
        cases qr : before q.1 r.1 with
        | true => exact .inl (Ordered.trans pq qr)
        | false => exact .inl (Ordered.same qr notBehind ▸ pq)
      | false =>
        have same := Ordered.same pq notAfter
        rw [same]
        cases qr : before q.1 r.1 with
        | true => exact .inl rfl
        | false => exact .inr ⟨notBehind, Ordered.trans left right⟩
  same {p q} left right := by
    simp only [Bool.or_eq_false_iff, Bool.and_eq_false_iff, Bool.not_eq_false'] at left right
    have first : p.1 = q.1 := Ordered.same left.1 right.1
    have second : p.2 = q.2 := by
      refine Ordered.same ?_ ?_
      · rcases left.2 with ahead | done
        · simp [first, Ordered.irrefl] at ahead
        · exact done
      · rcases right.2 with ahead | done
        · simp [first, Ordered.irrefl] at ahead
        · exact done
    exact Prod.ext first second

/-- The order of a type that each value's image determines. -/
@[reducible] def Ordered.ofImage {α β : Type} [Ordered β] (image : α → β)
    (injective : ∀ {a b}, image a = image b → a = b) : Ordered α where
  before a b := before (image a) (image b)
  irrefl a := Ordered.irrefl (image a)
  trans first second := Ordered.trans first second
  same left right := injective (Ordered.same left right)

variable {κ ν : Type} [Ordered κ]

theorem before_asymm {a b : κ} (first : before a b = true) : before b a = false := by
  cases other : before b a with
  | false => rfl
  | true => have := Ordered.trans first other; simp [Ordered.irrefl] at this

/-- Entries with strictly ascending keys. -/
def Ascending (entries : List (κ × ν)) : Prop :=
  entries.Pairwise fun a b => before a.1 b.1 = true

/-- A table from keys to values. -/
structure Table (κ ν : Type) [Ordered κ] where
  entries : List (κ × ν)
  ascending : Ascending entries

namespace Table

instance [DecidableEq κ] [DecidableEq ν] : DecidableEq (Table κ ν)
  | ⟨a, _⟩, ⟨b, _⟩ => if same : a = b then .isTrue (by subst same; rfl)
    else .isFalse fun equal => same (congrArg Table.entries equal)

instance [Repr κ] [Repr ν] : Repr (Table κ ν) := ⟨fun t n => reprPrec t.entries n⟩

/-- The table without entries. -/
def empty : Table κ ν := ⟨[], List.Pairwise.nil⟩

instance : Inhabited (Table κ ν) := ⟨empty⟩

/-- The value that a list of entries holds at a key. -/
def lookup (k : κ) : List (κ × ν) → Option ν
  | [] => none
  | (a, v) :: rest => if before a k then lookup k rest else if before k a then none else some v

/-- The value at a key. -/
def get? (t : Table κ ν) (k : κ) : Option ν := lookup k t.entries

/-- Whether there is an entry at a key. -/
def contains (t : Table κ ν) (k : κ) : Bool := (t.get? k).isSome

/-- The number of entries. -/
def size (t : Table κ ν) : Nat := t.entries.length

/-- The values in the order of their keys. -/
def values (t : Table κ ν) : List ν := t.entries.map (·.2)

/-- Entries with one of them set. -/
def insertEntry (k : κ) (v : ν) : List (κ × ν) → List (κ × ν)
  | [] => [(k, v)]
  | (a, w) :: rest =>
    if before a k then (a, w) :: insertEntry k v rest
    else if before k a then (k, v) :: (a, w) :: rest
    else (k, v) :: rest

theorem mem_insertEntry {k : κ} {v : ν} {entries : List (κ × ν)} {e : κ × ν}
    (present : e ∈ insertEntry k v entries) : e = (k, v) ∨ e ∈ entries := by
  induction entries with
  | nil => simpa [insertEntry] using present
  | cons head rest ih =>
    obtain ⟨a, w⟩ := head
    simp only [insertEntry] at present
    split at present
    · rcases List.mem_cons.mp present with here | later
      · exact .inr (by simp [here])
      · exact (ih later).imp_right (List.mem_cons_of_mem _)
    · split at present
      · simpa using present
      · rcases List.mem_cons.mp present with here | later
        · exact .inl here
        · exact .inr (List.mem_cons_of_mem _ later)

theorem ascending_insertEntry {k : κ} {v : ν} {entries : List (κ × ν)}
    (ordered : Ascending entries) : Ascending (insertEntry k v entries) := by
  induction entries with
  | nil => exact List.pairwise_singleton _ _
  | cons head rest ih =>
    obtain ⟨a, w⟩ := head
    obtain ⟨first, later⟩ := List.pairwise_cons.mp ordered
    simp only [insertEntry]
    split
    · next left =>
      refine List.pairwise_cons.mpr ⟨fun e present => ?_, ih later⟩
      rcases mem_insertEntry present with same | present
      · subst same; exact left
      · exact first e present
    · next left =>
      split
      · next right =>
        refine List.pairwise_cons.mpr ⟨fun e present => ?_, ordered⟩
        rcases List.mem_cons.mp present with same | present
        · subst same; exact right
        · exact Ordered.trans right (first e present)
      · next right =>
        have same : a = k := Ordered.same (by simpa using left) (by simpa using right)
        subst same
        exact List.pairwise_cons.mpr ⟨first, later⟩

/-- The table with the value at a key set. -/
def insert (t : Table κ ν) (k : κ) (v : ν) : Table κ ν :=
  ⟨insertEntry k v t.entries, ascending_insertEntry t.ascending⟩

/-- The table without the entry at a key. -/
def erase (t : Table κ ν) (k : κ) : Table κ ν :=
  ⟨t.entries.filter fun e => before e.1 k || before k e.1, t.ascending.filter _⟩

/-- The table of some entries; of equal keys the last one counts. -/
def ofList (entries : List (κ × ν)) : Table κ ν :=
  entries.foldl (fun t e => t.insert e.1 e.2) empty

theorem lookup_eq_none_of_before {k : κ} {entries : List (κ × ν)}
    (ahead : ∀ e ∈ entries, before k e.1 = true) : lookup k entries = none := by
  cases entries with
  | nil => rfl
  | cons head rest =>
    have first := ahead head (by simp)
    simp [lookup, first, before_asymm first]

theorem lookup_insertEntry (k j : κ) (v : ν) (entries : List (κ × ν)) :
    lookup j (insertEntry k v entries) =
      if before k j || before j k then lookup j entries else some v := by
  induction entries with
  | nil =>
    simp only [insertEntry, lookup]
    cases before k j <;> cases before j k <;> rfl
  | cons head rest ih =>
    obtain ⟨a, w⟩ := head
    simp only [insertEntry]
    split
    · next left =>
      simp only [lookup, ih]
      cases hkj : before k j <;> cases hjk : before j k <;> simp only [Bool.or_self, Bool.or_true,
        Bool.or_false, if_true, if_false, Bool.false_eq_true]
      have same : k = j := Ordered.same hkj hjk
      subst same
      simp [left]
    · next left =>
      split
      · next right =>
        simp only [lookup]
        cases hkj : before k j <;> cases hjk : before j k <;> simp
        · have aj : before a j = false := by
            cases haj : before a j with
            | false => rfl
            | true =>
              have := Ordered.trans haj hjk
              simp [before_asymm right] at this
          simp [aj, Ordered.trans hjk right]
      · next right =>
        have same : a = k := Ordered.same (by simpa using left) (by simpa using right)
        subst same
        simp only [lookup]
        cases before a j <;> cases before j a <;> simp

/-- A set entry is found, and every other look-up is as before. -/
theorem get?_insert (t : Table κ ν) (k j : κ) (v : ν) :
    (t.insert k v).get? j = if before k j || before j k then t.get? j else some v :=
  lookup_insertEntry k j v t.entries

@[simp] theorem get?_insert_self (t : Table κ ν) (k : κ) (v : ν) :
    (t.insert k v).get? k = some v := by
  simp [get?_insert, Ordered.irrefl]

theorem get?_insert_of_ne (t : Table κ ν) {k j : κ} (v : ν) (other : k ≠ j) :
    (t.insert k v).get? j = t.get? j := by
  rw [get?_insert]
  split
  · rfl
  · next neither =>
    simp only [Bool.or_eq_true, not_or, Bool.not_eq_true] at neither
    exact absurd (Ordered.same neither.1 neither.2) other

theorem lookup_filter (k j : κ) (entries : List (κ × ν)) (ordered : Ascending entries) :
    lookup j (entries.filter fun e => before e.1 k || before k e.1) =
      if before k j || before j k then lookup j entries else none := by
  induction entries with
  | nil => simp [lookup]
  | cons head rest ih =>
    obtain ⟨a, w⟩ := head
    obtain ⟨first, later⟩ := List.pairwise_cons.mp ordered
    have ih := ih later
    by_cases out : before a k = false ∧ before k a = false
    · have same : a = k := Ordered.same out.1 out.2
      subst same
      simp only [List.filter_cons, out.1, Bool.or_self, Bool.false_eq_true, if_false, ih, lookup]
      cases haj : before a j <;> cases hja : before j a <;> simp
      · exact lookup_eq_none_of_before fun e present => Ordered.trans hja (first e present)
    · have kept : (before a k || before k a) = true := by
        cases hak : before a k <;> cases hka : before k a <;> simp_all
      simp only [List.filter_cons, kept, if_true, lookup, ih]
      cases haj : before a j <;> cases hja : before j a <;>
        cases hkj : before k j <;> cases hjk : before j k <;> simp
      have aj := Ordered.same haj hja
      have kj := Ordered.same hkj hjk
      subst aj; subst kj
      simp [Ordered.irrefl] at kept

/-- An erased entry is gone, and every other look-up is as before. -/
theorem get?_erase (t : Table κ ν) (k j : κ) :
    (t.erase k).get? j = if before k j || before j k then t.get? j else none :=
  lookup_filter k j t.entries t.ascending

@[simp] theorem get?_erase_self (t : Table κ ν) (k : κ) : (t.erase k).get? k = none := by
  simp [get?_erase, Ordered.irrefl]

theorem get?_erase_of_ne (t : Table κ ν) {k j : κ} (other : k ≠ j) :
    (t.erase k).get? j = t.get? j := by
  rw [get?_erase]
  split
  · rfl
  · next neither =>
    simp only [Bool.or_eq_true, not_or, Bool.not_eq_true] at neither
    exact absurd (Ordered.same neither.1 neither.2) other

@[simp] theorem get?_empty (k : κ) : (empty : Table κ ν).get? k = none := rfl

end Table

end TokenSteward
