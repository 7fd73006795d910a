import Mathlib.Data.List.DropRight
import TokenSteward.Text.Affix

/-! # Where a text is divided

A text has one last place where a mark stands, and one first character that is not of a class. What is
trimmed off a text is nothing but the mark, so the trimmed form keeps every other character of it.
-/

namespace TokenSteward.Text

variable {c m : Char} {s t : List Char}

/-! ## Trimmed texts -/

/-- A text is its trimmed form with marks behind it. -/
theorem exists_trimEnd_append (c : Char) (s : List Char) :
    ∃ marks : List Char, s = trimEnd c s ++ marks ∧ ∀ d ∈ marks, d = c := by
  refine ⟨s.rtakeWhile (· == c), List.rdropWhile_append_rtakeWhile.symm, fun d here => ?_⟩
  simpa using List.mem_rtakeWhile_imp (p := (· == c)) here

/-- What is trimmed off a text stands behind every other character of it. -/
theorem exists_trimEnd_cons (other : m ≠ c) (s t : List Char) :
    ∃ rest, trimEnd c (s ++ m :: t) = s ++ m :: rest := by
  have stays : (m :: s.reverse).dropWhile (· == c) = m :: s.reverse :=
    List.dropWhile_cons_of_neg (by simpa using other)
  refine ⟨trimEnd c t, ?_⟩
  simp only [trimEnd, List.reverse_append, List.reverse_cons, List.append_assoc, List.singleton_append,
    List.dropWhile_append, stays]
  split
  · next nothing => simp [List.isEmpty_iff.mp nothing]
  · simp

/-- What begins a text and does not end in a mark begins the trimmed text. -/
theorem isPrefix_trimEnd (begins : t <+: s) (trimmed : trimEnd c t = t) : t <+: trimEnd c s := by
  rcases List.prefix_or_prefix_of_prefix begins (List.rdropWhile_prefix (· == c) s) with here | there
  · exact here
  · obtain ⟨rest, rfl⟩ := there
    have marks : rest <+: s.rtakeWhile (· == c) := by
      apply (List.prefix_append_right_inj (s.rdropWhile (· == c))).mp
      rwa [List.rdropWhile_append_rtakeWhile]
    have empty : rest = [] := by
      by_contra more
      have whole : s.rdropWhile (· == c) ++ rest ≠ [] := List.append_ne_nil_of_right_ne_nil _ more
      refine List.rdropWhile_eq_self_iff.mp trimmed whole ?_
      rw [List.getLast_append_of_ne_nil whole more]
      exact List.mem_rtakeWhile_imp (p := (· == c)) (marks.subset (List.getLast_mem more))
    rw [empty, List.append_nil]
    exact List.prefix_rfl

/-! ## Marks -/

/-- A text is cut in one way only at the last place where a mark stands. -/
theorem eq_of_last_mark {front front' back back' : List Char} (clear : m ∉ back) (clear' : m ∉ back')
    (same : front ++ m :: back = front' ++ m :: back') : front = front' ∧ back = back' := by
  have none_between {between rest rest' : List Char} (clear : m ∉ rest)
      (same : m :: rest = between ++ m :: rest') : between = [] ∧ rest = rest' := by
    cases between with
    | nil => exact ⟨rfl, (List.cons.inj same).2⟩
    | cons c between =>
      have behind : rest = between ++ m :: rest' := (List.cons.inj same).2
      exact absurd (by simp [behind]) clear
  rcases List.append_eq_append_iff.mp same with ⟨between, rfl, rest⟩ | ⟨between, rfl, rest⟩
  · obtain ⟨rfl, rfl⟩ := none_between clear rest
    exact ⟨(List.append_nil _).symm, rfl⟩
  · obtain ⟨rfl, rfl⟩ := none_between clear' rest
    exact ⟨List.append_nil _, rfl⟩

/-- The front of a text in a class of characters ends at the first one that is not of the class. -/
theorem parts_of_append_cons {p : Char → Bool} {front : List Char} (before : ∀ c ∈ front, p c = true)
    (mark : p m = false) (rest : List Char) :
    (front ++ m :: rest).takeWhile p = front ∧ (front ++ m :: rest).dropWhile p = m :: rest := by
  rw [List.takeWhile_append_of_pos before, List.dropWhile_append_of_pos before]
  simp [mark]

/-- A text without a mark is its only part. -/
theorem parted_of_not_mem (clear : m ∉ s) : parted m s = [s] := by
  induction s with
  | nil => rfl
  | cons c s ih =>
    rw [List.mem_cons, not_or] at clear
    simp [parted, Ne.symm clear.1, ih clear.2]

end TokenSteward.Text
