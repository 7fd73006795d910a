import Mathlib.Data.List.TakeWhile
import TokenSteward.Json.Skip
import TokenSteward.Proofs.Json.RoundTrip

/-! # The grammar of data texts

What a data text is, said without a reader, so that readers can be measured against it. What stands in a
bracket is described from any place on up to the closing of the bracket, which is what is left of it while
it is read. A byte that belongs to no character may stand in a string; a text has none.
-/

namespace TokenSteward.Json

open TokenSteward.Number

/-- Nothing but blanks. -/
def Blanks (s : Symbols) : Prop := ∀ x ∈ s, isGap x = true

instance (s : Symbols) : Decidable (Blanks s) := inferInstanceAs (Decidable (∀ x ∈ s, isGap x = true))

/-! ## Numbers -/

/-- One digit or more. -/
def IsDigits (cs : List Char) : Prop := cs ≠ [] ∧ ∀ c ∈ cs, isDigit c = true

/-- The decimals of a number with the point before them, or nothing. -/
inductive IsDecimals : List Char → Prop where
  | none : IsDecimals []
  | point {ds : List Char} (digits : IsDigits ds) : IsDecimals ('.' :: ds)

/-- The exponent of a number with its mark, or nothing. -/
inductive IsExponent : List Char → Prop where
  | none : IsExponent []
  | mark {e : Char} {sign ds : List Char} (mark : e = 'e' ∨ e = 'E')
      (signed : sign = [] ∨ sign = ['+'] ∨ sign = ['-']) (digits : IsDigits ds) :
      IsExponent (e :: (sign ++ ds))

/-- A number without its sign. A zero at its front is the whole part of it. -/
inductive IsUnsigned : List Char → Prop where
  | mk {whole decimals exponent : List Char} (digits : IsDigits whole)
      (alone : ∀ ds, whole = '0' :: ds → ds = []) (isDecimals : IsDecimals decimals)
      (isExponent : IsExponent exponent) : IsUnsigned (whole ++ (decimals ++ exponent))

/-- A number. -/
inductive IsNumber : List Char → Prop where
  | plain {cs : List Char} (unsigned : IsUnsigned cs) : IsNumber cs
  | minus {cs : List Char} (unsigned : IsUnsigned cs) : IsNumber ('-' :: cs)

/-! ## Strings -/

/-- Whether a symbol stands for itself in a string. -/
def isPlain : Option Char → Bool
  | some c => c != '"' && c != '\\' && 0x20 ≤ c.toNat
  | none => true

/-- The inside of a string with the quote that closes it. -/
inductive IsBody : Symbols → Prop where
  | close : IsBody [some '"']
  | plain {x : Option Char} {s : Symbols} (plain : isPlain x = true) (later : IsBody s) : IsBody (x :: s)
  | escape {c : Char} {s : Symbols} (known : c ∈ ['"', '\\', '/', 'b', 'f', 'n', 'r', 't'])
      (later : IsBody s) : IsBody (some '\\' :: some c :: s)
  | hex {x y z w : Char} {s : Symbols} (digits : ∀ c ∈ [x, y, z, w], (hexDigit? c).isSome = true)
      (later : IsBody s) :
      IsBody (some '\\' :: some 'u' :: some x :: some y :: some z :: some w :: s)

/-! ## Values -/

/-- The symbol that opens a bracket. -/
def Bracket.opening : Bracket → Char
  | .list => '['
  | .object => '\x7b'

/-- What stands before a value in a bracket: in an object its key and a colon. -/
inductive Leads : Bracket → Symbols → Prop where
  | item {gap : Symbols} (blank : Blanks gap) : Leads .list gap
  | field {gap key gap' gap'' : Symbols} (blank : Blanks gap) (isKey : IsBody key) (blank' : Blanks gap')
      (blank'' : Blanks gap'') : Leads .object (gap ++ some '"' :: (key ++ (gap' ++ some ':' :: gap'')))

/-- A part of a data text: a value, or what is left of a bracket, which is fresh before its first value. -/
inductive Part where
  | value
  | rest (b : Bracket) (fresh : Bool)

/-- What stands before a value in a bracket that is not its first one. -/
def comma (fresh : Bool) : Symbols := if fresh then [] else [some ',']

/-- The texts of each part. -/
inductive Spells : Part → Symbols → Prop where
  | null : Spells .value [some 'n', some 'u', some 'l', some 'l']
  | yes : Spells .value [some 't', some 'r', some 'u', some 'e']
  | no : Spells .value [some 'f', some 'a', some 'l', some 's', some 'e']
  | number {cs : List Char} (isNumber : IsNumber cs) : Spells .value (cs.map some)
  | string {body : Symbols} (isBody : IsBody body) : Spells .value (some '"' :: body)
  | bracket (b : Bracket) {s : Symbols} (inside : Spells (.rest b true) s) :
      Spells .value (some b.opening :: s)
  | close (b : Bracket) (fresh : Bool) {gap : Symbols} (blank : Blanks gap) :
      Spells (.rest b fresh) (gap ++ [some b.closing])
  | next {b : Bracket} {fresh : Bool} {gap lead v s : Symbols} (blank : Blanks gap) (leads : Leads b lead)
      (value : Spells .value v) (later : Spells (.rest b false) s) :
      Spells (.rest b fresh) (gap ++ (comma fresh ++ (lead ++ (v ++ s))))

/-- The text of one value. -/
abbrev IsValue (s : Symbols) : Prop := Spells .value s

/-- A text that is one value, with blanks around it at most. -/
def IsDocument (s : Symbols) : Prop :=
  ∃ gap v gap', s = gap ++ (v ++ gap') ∧ Blanks gap ∧ IsValue v ∧ Blanks gap'

/-! ## Blanks -/

variable {s gap v : Symbols} {x : Option Char} {b : Bracket} {fresh : Bool}

theorem blanks_nil : Blanks [] := fun _ among => nomatch among

theorem Blanks.append {gap' : Symbols} (blank : Blanks gap) (blank' : Blanks gap') :
    Blanks (gap ++ gap') :=
  List.forall_mem_append.mpr ⟨blank, blank'⟩

theorem Blanks.skip (blank : Blanks gap) (s : Symbols) : skipGap (gap ++ s) = skipGap s := by
  rw [skipGap, List.dropWhile_append_of_pos blank, skipGap]

/-- The blanks at the front of an input end at a symbol that is none. -/
theorem Blanks.skip_cons (blank : Blanks gap) (mark : isGap x = false) (s : Symbols) :
    skipGap (gap ++ x :: s) = x :: s := by
  rw [blank.skip, skipGap_cons mark]

theorem exists_blanks (s : Symbols) : ∃ gap, s = gap ++ skipGap s ∧ Blanks gap :=
  ⟨s.takeWhile isGap, List.takeWhile_append_dropWhile.symm, fun _ among => List.mem_takeWhile_imp among⟩

/-- An input of which something is left behind the blanks begins with blanks and that. -/
theorem exists_of_skipGap (skipped : skipGap s = x :: v) : ∃ gap, s = gap ++ x :: v ∧ Blanks gap := by
  obtain ⟨gap, split, blank⟩ := exists_blanks s
  exact ⟨gap, skipped ▸ split, blank⟩

/-! ## Where parts begin -/

theorem isGap_opening (b : Bracket) : isGap (some b.opening) = false := by cases b <;> rfl

theorem isGap_closing (b : Bracket) : isGap (some b.closing) = false := by cases b <;> rfl

theorem IsUnsigned.exists_digit {cs : List Char} (unsigned : IsUnsigned cs) :
    ∃ d ds, cs = d :: ds ∧ isDigit d = true := by
  obtain @⟨whole, decimals, exponent, ⟨some_, all⟩, -, -, -⟩ := unsigned
  obtain ⟨d, ds, rfl⟩ := List.exists_cons_of_ne_nil some_
  exact ⟨d, _, rfl, all d List.mem_cons_self⟩

theorem IsNumber.exists_front {cs : List Char} (number : IsNumber cs) :
    ∃ c rest, cs = c :: rest ∧ (c = '-' ∨ isDigit c = true) := by
  cases number with
  | plain unsigned =>
    obtain ⟨d, ds, rfl, digit⟩ := unsigned.exists_digit
    exact ⟨d, ds, rfl, .inr digit⟩
  | minus unsigned => exact ⟨'-', _, rfl, .inl rfl⟩

/-- A value begins with a symbol that is neither a blank nor a mark between values. -/
theorem Spells.exists_front (value : IsValue v) :
    ∃ x w, v = x :: w ∧ isGap x = false ∧ x ≠ some ',' ∧ ∀ b : Bracket, x ≠ some b.closing := by
  cases value with
  | null => exact ⟨_, _, rfl, rfl, by decide, by rintro ⟨⟩ <;> decide⟩
  | yes => exact ⟨_, _, rfl, rfl, by decide, by rintro ⟨⟩ <;> decide⟩
  | no => exact ⟨_, _, rfl, rfl, by decide, by rintro ⟨⟩ <;> decide⟩
  | number number =>
    obtain ⟨c, rest, rfl, lead⟩ := number.exists_front
    have other {d : Char} (apart : ¬ (d = '-' ∨ isDigit d = true)) : some c ≠ some d := fun same =>
      apart (Option.some.inj same ▸ lead)
    refine ⟨_, _, rfl, isGap_of_number lead, other (by decide), ?_⟩
    rintro ⟨⟩
    · exact other (by decide)
    · exact other (by decide)
  | string => exact ⟨_, _, rfl, rfl, by decide, by rintro ⟨⟩ <;> decide⟩
  | bracket b => cases b <;> exact ⟨_, _, rfl, rfl, by decide, by rintro ⟨⟩ <;> decide⟩

theorem Spells.skip (value : IsValue v) (s : Symbols) : skipGap (v ++ s) = v ++ s := by
  obtain ⟨x, w, rfl, noGap, -⟩ := value.exists_front
  exact skipGap_cons noGap (w ++ s)

/-- An input that begins with a value begins with its first symbol. -/
theorem Spells.exists_of_append {t : Symbols} (value : IsValue v) (front : v ++ s = x :: t) :
    ∃ w, v = x :: w := by
  obtain ⟨y, w, rfl, -⟩ := value.exists_front
  exact ⟨w, congrArg (· :: w) (List.cons.inj front).1⟩

theorem Spells.skip_ne (value : IsValue v) (other : ¬ ∃ w, v = x :: w) (s t : Symbols) :
    skipGap (v ++ s) ≠ x :: t := fun front =>
  other (value.exists_of_append ((value.skip s).symm.trans front))

/-- What is left of a value behind its first symbol. -/
def Follows : Char → Symbols → Prop
  | 'n', w => w = [some 'u', some 'l', some 'l']
  | 't', w => w = [some 'r', some 'u', some 'e']
  | 'f', w => w = [some 'a', some 'l', some 's', some 'e']
  | '"', w => IsBody w
  | '[', w => Spells (.rest .list true) w
  | '\x7b', w => Spells (.rest .object true) w
  | c, w => ∃ cs : List Char, some c :: w = cs.map some ∧ IsNumber cs

theorem follows_number {c : Char} (lead : c = '-' ∨ isDigit c = true) (w : Symbols) :
    Follows c w ↔ ∃ cs : List Char, some c :: w = cs.map some ∧ IsNumber cs := by
  have other {d : Char} (apart : ¬ (d = '-' ∨ isDigit d = true)) : c ≠ d := fun same => apart (same ▸ lead)
  rw [Follows.eq_7 c w (other (by decide)) (other (by decide)) (other (by decide)) (other (by decide))
    (other (by decide)) (other (by decide))]

theorem Spells.follows {c : Char} {w : Symbols} (value : IsValue (some c :: w)) : Follows c w := by
  generalize front : some c :: w = v at value
  cases value with
  | null => cases front; rfl
  | yes => cases front; rfl
  | no => cases front; rfl
  | string isBody => cases front; exact isBody
  | bracket b inside => cases b <;> cases front <;> exact inside
  | number number =>
    obtain ⟨d, rest, rfl, lead⟩ := number.exists_front
    obtain ⟨same, -⟩ := List.cons.inj front
    rw [← Option.some.inj same] at lead
    exact (follows_number lead w).mpr ⟨d :: rest, front, number⟩

/-! ## What may follow -/

/-- Whether an input does not go on with a number that ends before it. -/
def cuts : Symbols → Bool
  | some c :: _ => !(isDigit c || c == '.' || c == 'e' || c == 'E')
  | _ => true

/-- A value that is a list or an object. -/
def Enclosed (v : Symbols) : Prop := ∃ b w, v = some (Bracket.opening b) :: w

/-- A value and what follows it are apart: the value is closed by a bracket of its own, or what follows
cannot belong to a number. -/
def Apart (v s : Symbols) : Prop := Enclosed v ∨ cuts s = true

theorem cuts_of_isGap (gap : isGap x = true) (s : Symbols) : cuts (x :: s) = true := by
  unfold isGap at gap
  split at gap
  · rfl
  · rfl
  · rfl
  · rfl
  · contradiction

theorem Blanks.cuts (blank : Blanks s) : cuts s = true := by
  cases s with
  | nil => rfl
  | cons x s => exact cuts_of_isGap (blank x List.mem_cons_self) s

/-- A number is closed by no bracket, so it is apart from what cannot belong to it. -/
theorem Apart.cuts {cs : List Char} (apart : Apart (cs.map some) s) (number : IsNumber cs) :
    Json.cuts s = true := by
  rcases apart with ⟨b, w, enclosed⟩ | cut
  · obtain ⟨c, rest, rfl, lead⟩ := number.exists_front
    have opening : c = b.opening := Option.some.inj (List.cons.inj enclosed).1
    rw [opening] at lead
    cases b <;> exact absurd lead (by decide)
  · exact cut

/-- Behind a value in a bracket nothing goes on with a number. -/
theorem Spells.cuts (later : Spells (.rest b false) v) (s : Symbols) : cuts (v ++ s) = true := by
  cases later with
  | @close _ _ gap blank =>
    cases gap with
    | nil => cases b <;> rfl
    | cons x gap => exact cuts_of_isGap (blank x List.mem_cons_self) _
  | @next _ _ gap lead w t blank leads value later =>
    cases gap with
    | nil => rfl
    | cons x gap => exact cuts_of_isGap (blank x List.mem_cons_self) _

theorem Spells.apart (later : Spells (.rest b false) v) (w s : Symbols) : Apart w (v ++ s) :=
  .inr (later.cuts s)

/-- What is answered in front of a text depends on the text alone, wherever what follows it is fit to
follow; and that is left. -/
def Settles {ε α : Type} (read : Symbols → Except ε (α × Symbols)) (v : Symbols)
    (fit : Symbols → Prop) : Prop :=
  ∃ outcome : Except ε α, ∀ s, fit s → read (v ++ s) = outcome.map fun a => (a, s)

end TokenSteward.Json
