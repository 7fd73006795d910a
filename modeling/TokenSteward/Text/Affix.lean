/-! # Affixes of a text

Taking a known beginning off a text, cutting a text at the first place where a mark stands, and
trimming its ends. Texts are lists of characters here, so that each operation is a recursion on
the text and its laws are inductions.
-/

namespace TokenSteward.Text

/-- What follows `affix` in a text that starts with it. -/
def after? : List Char → List Char → Option (List Char)
  | [], s => some s
  | _ :: _, [] => none
  | a :: affix, c :: s => if a = c then after? affix s else none

theorem after?_append (affix rest : List Char) : after? affix (affix ++ rest) = some rest := by
  induction affix with
  | nil => rfl
  | cons a affix ih => simp [after?, ih]

theorem eq_append_of_after? {affix s rest : List Char} (found : after? affix s = some rest) :
    s = affix ++ rest := by
  induction affix generalizing s with
  | nil => simp [after?] at found; simp [found]
  | cons a affix ih =>
    cases s with
    | nil => simp [after?] at found
    | cons c s =>
      by_cases same : a = c
      · simp only [after?, same, if_true] at found
        simp [same, ih found]
      · simp [after?, same] at found

/-- A text starts with `affix` exactly when it is `affix` followed by the rest. -/
theorem after?_eq_some_iff {affix s rest : List Char} :
    after? affix s = some rest ↔ s = affix ++ rest :=
  ⟨eq_append_of_after?, fun same => same ▸ after?_append affix rest⟩

/-- The parts of a text before and after the first place where `mark` stands. -/
def cut? (mark : List Char) : List Char → Option (List Char × List Char)
  | [] => (after? mark []).map fun rest => ([], rest)
  | c :: s =>
    match after? mark (c :: s) with
    | some rest => some ([], rest)
    | none => (cut? mark s).map fun parts => (c :: parts.1, parts.2)

/-- Nothing is lost in a cut but the mark. -/
theorem eq_of_cut? {mark s before rest : List Char} (found : cut? mark s = some (before, rest)) :
    s = before ++ mark ++ rest := by
  induction s generalizing before with
  | nil =>
    simp only [cut?, Option.map_eq_some_iff] at found
    obtain ⟨r, hr, same⟩ := found
    cases same
    simpa using eq_append_of_after? hr
  | cons c s ih =>
    simp only [cut?] at found
    split at found
    · next r hr =>
      cases found
      simpa using eq_append_of_after? hr
    · next hr =>
      obtain ⟨parts, hp, same⟩ := Option.map_eq_some_iff.mp found
      cases same
      simp [ih hp]

/-- A text is cut where the mark was put, if nothing before it begins like the mark. -/
theorem cut?_append {m : Char} {before : List Char} (mark rest : List Char) (clear : m ∉ before) :
    cut? (m :: mark) (before ++ m :: mark ++ rest) = some (before, rest) := by
  induction before with
  | nil =>
    have found : after? (m :: mark) (m :: (mark ++ rest)) = some rest := after?_append (m :: mark) rest
    change cut? (m :: mark) (m :: (mark ++ rest)) = _
    rw [cut?, found]
  | cons c before ih =>
    rw [List.mem_cons, not_or] at clear
    have other : after? (m :: mark) (c :: (before ++ m :: mark ++ rest)) = none := by
      simp [after?, clear.1]
    change cut? (m :: mark) (c :: (before ++ m :: mark ++ rest)) = _
    rw [cut?, other]
    simp only [ih clear.2, Option.map_some]

/-- The parts of a text between the places where `mark` stands. -/
def parted (mark : Char) : List Char → List (List Char)
  | [] => [[]]
  | c :: s =>
    if c = mark then [] :: parted mark s
    else match parted mark s with
      | [] => [[c]]
      | first :: more => (c :: first) :: more

/-- The text without the marks `c` at its end. -/
def trimEnd (c : Char) (s : List Char) : List Char :=
  (s.reverse.dropWhile (· == c)).reverse

/-- The text without the characters of a class at either end. -/
def trimBoth (drop : Char → Bool) (s : List Char) : List Char :=
  ((s.dropWhile drop).reverse.dropWhile drop).reverse

/-- Texts put behind one another with a separator between two of them. -/
def joined (separator : String) : List String → String
  | [] => ""
  | [s] => s
  | s :: t :: rest => s ++ separator ++ joined separator (t :: rest)

end TokenSteward.Text
