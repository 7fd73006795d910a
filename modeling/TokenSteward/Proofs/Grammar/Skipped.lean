import TokenSteward.Proofs.Grammar.Numbers
import TokenSteward.Proofs.Grammar.Strings

/-! # What is skipped is one value

The skipper takes exactly one value of the grammar off the front of an input, and every one that is apart
from what follows it. It keeps the open brackets in a list, so what is left of the input has to close
each of them in turn. Where the value ends does not depend on how the input goes on behind it: a text is
one value with blanks around it just if the skipper leaves blanks.
-/

namespace TokenSteward.Json

open TokenSteward.Number

variable {s s' rest v t gap lead : Symbols} {b : Bracket} {brackets brackets' outer : List Bracket}
  {fresh : Bool} {fuel : Nat} {c : Char} {cs : List Char}

/-! ## The front of a value -/

theorem eq_of_readWord {word : List Char} (read : readWord word s = .ok rest) :
    s = word.map some ++ rest := by
  induction word generalizing s with
  | nil =>
    cases read
    rfl
  | cons c word ih =>
    cases s with
    | nil => cases read
    | cons x s =>
      rw [readWord] at read
      split at read
      · next same => rw [same, ih read, List.map_cons, List.cons_append]
      · cases read

/-- The front of a value is all of it, or opens a bracket. -/
theorem exists_of_skipFront {opened : Option Bracket} (skip : skipFront s = .ok (opened, rest)) :
    (opened = none ∧ ∃ v, s = v ++ rest ∧ IsValue v) ∨
      ∃ b, opened = some b ∧ s = some b.opening :: rest := by
  unfold skipFront at skip
  split at skip
  · cases skip
  · obtain ⟨_, word, skip⟩ := exists_of_bind_eq_ok skip
    cases skip
    exact .inl ⟨rfl, _, congrArg (some 'n' :: ·) (eq_of_readWord word), .null⟩
  · obtain ⟨_, word, skip⟩ := exists_of_bind_eq_ok skip
    cases skip
    exact .inl ⟨rfl, _, congrArg (some 't' :: ·) (eq_of_readWord word), .yes⟩
  · obtain ⟨_, word, skip⟩ := exists_of_bind_eq_ok skip
    cases skip
    exact .inl ⟨rfl, _, congrArg (some 'f' :: ·) (eq_of_readWord word), .no⟩
  · obtain ⟨_, string, skip⟩ := exists_of_bind_eq_ok skip
    cases skip
    obtain ⟨body, rfl, isBody⟩ := exists_of_skipString string
    exact .inl ⟨rfl, some '"' :: body, rfl, .string isBody⟩
  · cases skip
    exact .inr ⟨.list, rfl, rfl⟩
  · cases skip
    exact .inr ⟨.object, rfl, rfl⟩
  · obtain ⟨_, number, skip⟩ := exists_of_bind_eq_ok skip
    cases skip
    obtain ⟨cs, rfl, unsigned⟩ := exists_of_skipUnsigned number
    exact .inl ⟨rfl, ('-' :: cs).map some, rfl, .number (.minus unsigned)⟩
  · split at skip
    · obtain ⟨_, number, skip⟩ := exists_of_bind_eq_ok skip
      cases skip
      obtain ⟨cs, whole, unsigned⟩ := exists_of_skipUnsigned number
      exact .inl ⟨rfl, cs.map some, whole, .number (.plain unsigned)⟩
    · cases skip
  · cases skip

theorem skipFront_opening (b : Bracket) (s : Symbols) :
    skipFront (some b.opening :: s) = .ok (some b, s) := by
  cases b <;> rfl

theorem skipFront_quote {body : Symbols} (isBody : IsBody body) (s : Symbols) :
    skipFront (some '"' :: (body ++ s)) = .ok (none, s) := by
  change skipString (body ++ s) >>= (fun rest => Except.ok (none, rest)) = _
  rw [skipString_of_isBody isBody]
  rfl

theorem skipFront_digit (digit : isDigit c = true) (s : Symbols) :
    skipFront (some c :: s) = skipUnsigned (some c :: s) >>= fun rest => .ok (none, rest) := by
  have other {d : Char} (apart : isDigit d = false) : c ≠ d := by
    rintro rfl
    rw [digit] at apart
    cases apart
  rw [skipFront.eq_9 c s (other rfl) (other rfl) (other rfl) (other rfl) (other rfl) (other rfl)
    (other rfl), if_pos digit]

theorem IsNumber.skipFront (number : IsNumber cs) (apart : cuts s = true) :
    skipFront (cs.map some ++ s) = .ok (Option.none, s) := by
  cases number with
  | @minus cs unsigned =>
    change skipUnsigned (cs.map some ++ s) >>= (fun rest => Except.ok (Option.none, rest)) = _
    rw [unsigned.skip apart]
    rfl
  | plain unsigned =>
    obtain ⟨d, ds, rfl, digit⟩ := unsigned.exists_digit
    have skip := unsigned.skip apart
    rw [List.map_cons, List.cons_append] at skip ⊢
    rw [skipFront_digit digit, skip]
    rfl

/-! ## Between two values -/

/-- The key of a field and its colon, which with blanks behind them lead to a value. -/
theorem exists_of_skipKey (skip : skipKey s = .ok rest) :
    ∃ key, s = key ++ rest ∧ ∀ gap, Blanks gap → Leads .object (key ++ gap) := by
  unfold skipKey at skip
  split at skip
  · cases skip
  · next behind =>
    obtain ⟨gap, rfl, blank⟩ := exists_of_skipGap behind
    obtain ⟨left, string, colon⟩ := exists_of_bind_eq_ok skip
    obtain ⟨body, rfl, isBody⟩ := exists_of_skipString string
    split at colon
    · cases colon
    · next behind' =>
      cases colon
      obtain ⟨gap', rfl, blank'⟩ := exists_of_skipGap behind'
      refine ⟨gap ++ some '"' :: (body ++ (gap' ++ [some ':'])), by simp, fun gap'' blank'' => ?_⟩
      have leads := Leads.field blank isBody blank' blank''
      simpa using leads
    · cases colon
  · cases skip

theorem skipKey_of_isBody {key gap' : Symbols} (blank : Blanks gap) (isKey : IsBody key)
    (blank' : Blanks gap') (s : Symbols) :
    skipKey (gap ++ some '"' :: (key ++ (gap' ++ some ':' :: s))) = .ok s := by
  simp only [skipKey, blank.skip_cons (x := some '"') rfl, skipString_of_isBody isKey, Bind.bind, Except.bind,
    blank'.skip_cons (x := some ':') rfl]

/-- What is left of some brackets, the innermost first. -/
inductive Closes : Bool → List Bracket → Symbols → Prop where
  | nil (fresh : Bool) : Closes fresh [] []
  | cons {fresh : Bool} {b : Bracket} {outer : List Bracket} {t t' : Symbols}
      (inner : Spells (.rest b fresh) t) (later : Closes false outer t') : Closes fresh (b :: outer) (t ++ t')

/-- The innermost bracket is closed, or it stays open up to the place where its next value is due. -/
theorem closeBrackets_cases (close : closeBrackets fresh (b :: outer) s = .ok (brackets', rest)) :
    ∃ gap, Blanks gap ∧
      ((∃ t, s = gap ++ some b.closing :: t ∧ closeBrackets false outer t = .ok (brackets', rest)) ∨
        brackets' = b :: outer ∧ s = gap ++ (comma fresh ++ rest)) := by
  rw [closeBrackets] at close
  split at close
  · cases close
  · next x left behind =>
    obtain ⟨gap, rfl, blank⟩ := exists_of_skipGap behind
    refine ⟨gap, blank, ?_⟩
    split at close
    · next goesOn =>
      cases close
      obtain ⟨rfl, notFresh⟩ := goesOn
      obtain rfl : fresh = false := by simpa using notFresh
      exact .inr ⟨rfl, rfl⟩
    · split at close
      · next same => exact .inl ⟨left, by rw [same], close⟩
      · split at close
        · next isFresh =>
          cases close
          exact .inr ⟨rfl, by rw [isFresh]; rfl⟩
        · cases close

/-- Behind a value all brackets are closed, or some up to the place where the next value is due. -/
theorem exists_of_closeBrackets (close : closeBrackets fresh brackets s = .ok (brackets', rest)) :
    (brackets' = [] ∧ ∃ t, s = t ++ rest ∧ Closes fresh brackets t) ∨
      ∃ b outer t, brackets' = b :: outer ∧ s = t ++ rest ∧ ∀ {lead v later}, Leads b lead → IsValue v →
        Closes false (b :: outer) later → Closes fresh brackets (t ++ (lead ++ (v ++ later))) := by
  induction brackets generalizing fresh s with
  | nil =>
    cases close
    exact .inl ⟨rfl, [], rfl, .nil fresh⟩
  | cons b outer ih =>
    obtain ⟨gap, blank, ⟨left, rfl, onward⟩ | ⟨rfl, rfl⟩⟩ := closeBrackets_cases close
    · have closed : Spells (.rest b fresh) (gap ++ [some b.closing]) := .close b fresh blank
      rcases ih onward with ⟨rfl, t, rfl, closes⟩ | ⟨b', outer', t, rfl, rfl, extend⟩
      · exact .inl ⟨rfl, gap ++ [some b.closing] ++ t, by simp, .cons closed closes⟩
      · refine .inr ⟨b', outer', gap ++ [some b.closing] ++ t, rfl, by simp, fun leads value closes => ?_⟩
        rw [List.append_assoc]
        exact .cons closed (extend leads value closes)
    · refine .inr ⟨b, outer, gap ++ comma fresh, rfl, by simp, fun leads value closes => ?_⟩
      cases closes with
      | cons inner later => simpa using Closes.cons (.next blank leads value inner) later

/-! ## What was skipped -/

/-- Goes on behind a value in some brackets, or behind an opening one. -/
def skipOn (fuel : Nat) (fresh : Bool) (brackets : List Bracket) (s : Symbols) : Except Cause Symbols := do
  let (brackets, s) ← closeBrackets fresh brackets s
  match brackets with
  | [] => .ok s
  | .object :: _ => skipWithin fuel brackets (← skipKey s)
  | .list :: _ => skipWithin fuel brackets s

theorem skipWithin_succ (fuel : Nat) (brackets : List Bracket) (s : Symbols) :
    skipWithin (fuel + 1) brackets s = skipFront (skipGap s) >>= fun front =>
      match front.1 with
      | some b => skipOn fuel true (b :: brackets) front.2
      | none => skipOn fuel false brackets front.2 := by
  rw [skipWithin]
  cases skipFront (skipGap s) with
  | error => rfl
  | ok front =>
    obtain ⟨_ | b, rest⟩ := front
    · rfl
    · rfl

/-- What is skipped in some brackets is a value and what is left of them. -/
theorem exists_of_skipWithin (enough : s.length < fuel) (skip : skipWithin fuel brackets s = .ok rest) :
    ∃ gap v t, s = gap ++ (v ++ (t ++ rest)) ∧ Blanks gap ∧ IsValue v ∧ Closes false brackets t := by
  induction fuel generalizing brackets s with
  | zero => exact absurd enough (Nat.not_lt_zero _)
  | succ fuel ih =>
    -- Behind a value or an opening bracket what follows is the closing of brackets or, on less fuel, a value.
    have goesOn {fresh : Bool} {brackets : List Bracket} {s : Symbols} (enough : s.length < fuel)
        (skip : skipOn fuel fresh brackets s = .ok rest) :
        ∃ t, s = t ++ rest ∧ Closes fresh brackets t := by
      obtain ⟨⟨brackets', s'⟩, close, left⟩ := exists_of_bind_eq_ok skip
      rcases exists_of_closeBrackets close with ⟨rfl, t, rfl, closes⟩ | ⟨b, outer, t, rfl, rfl, extend⟩
      · cases left
        exact ⟨t, rfl, closes⟩
      · rw [List.length_append] at enough
        cases b with
        | list =>
          obtain ⟨gap, v, later, rfl, blank, value, closes⟩ := ih (by omega) left
          exact ⟨t ++ (gap ++ (v ++ later)), by simp, extend (.item blank) value closes⟩
        | object =>
          obtain ⟨s'', atKey, within⟩ := exists_of_bind_eq_ok left
          obtain ⟨key, rfl, leads⟩ := exists_of_skipKey atKey
          rw [List.length_append] at enough
          obtain ⟨gap, v, later, rfl, blank, value, closes⟩ := ih (by omega) within
          exact ⟨t ++ ((key ++ gap) ++ (v ++ later)), by simp, extend (leads gap blank) value closes⟩
    rw [skipWithin_succ] at skip
    obtain ⟨⟨opened, s'⟩, atFront, left⟩ := exists_of_bind_eq_ok skip
    dsimp only at left
    obtain ⟨gap, split, blank⟩ := exists_blanks s
    rcases exists_of_skipFront atFront with ⟨rfl, v, front, value⟩ | ⟨b, rfl, front⟩
    · obtain ⟨x, w, rfl, -⟩ := value.exists_front
      rw [split, front, List.length_append, List.length_append, List.length_cons] at enough
      obtain ⟨t, rfl, closes⟩ := goesOn (by omega) left
      exact ⟨gap, x :: w, t, front ▸ split, blank, value, closes⟩
    · rw [split, front, List.length_append, List.length_cons] at enough
      obtain ⟨_, rfl, closes⟩ := goesOn (by omega) left
      cases closes with
      | @cons _ _ _ t t' inner later =>
        refine ⟨gap, some b.opening :: t, t', ?_, blank, .bracket b inner, later⟩
        rw [split, front, List.append_assoc, List.cons_append]

/-- What is skipped as a value is one, with blanks before it. -/
theorem exists_of_skipValue (skip : skipValue s = .ok rest) :
    ∃ gap v, s = gap ++ (v ++ rest) ∧ Blanks gap ∧ IsValue v := by
  obtain ⟨gap, v, _, split, blank, value, ⟨⟩⟩ := exists_of_skipWithin (Nat.lt_succ_self _) skip
  exact ⟨gap, v, split, blank, value⟩

/-- What is skipped to its end is a value, if no blank stands before it. -/
theorem isValue_of_skipValue {x : Option Char} (skip : skipValue (x :: s) = .ok [])
    (noGap : isGap x = false) : IsValue (x :: s) := by
  obtain ⟨_ | ⟨y, gap⟩, v, split, blank, value⟩ := exists_of_skipValue skip
  · rw [split, List.nil_append, List.append_nil]
    exact value
  · obtain ⟨rfl, -⟩ := List.cons.inj split
    exact absurd (blank x List.mem_cons_self) (noGap ▸ Bool.false_ne_true)

/-! ## In front of a value -/

theorem closeBrackets_closing (blank : Blanks gap) (fresh : Bool) (b : Bracket) (outer : List Bracket)
    (s : Symbols) :
    closeBrackets fresh (b :: outer) (gap ++ some b.closing :: s) = closeBrackets false outer s := by
  have noComma : ¬ (some b.closing = some ',' ∧ (!fresh) = true) := fun both => by
    cases b <;> exact absurd both.1 (by decide)
  simp only [closeBrackets, blank.skip_cons (isGap_closing b), if_neg noComma, if_true]

theorem closeBrackets_comma (blank : Blanks gap) (b : Bracket) (outer : List Bracket) (s : Symbols) :
    closeBrackets false (b :: outer) (gap ++ some ',' :: s) = .ok (b :: outer, s) := by
  simp only [closeBrackets, blank.skip_cons (x := some ',') rfl]
  rfl

/-- An opened bracket stays open in front of a symbol that does not close it. -/
theorem closeBrackets_fresh {x : Option Char} (blank : Blanks gap) (noGap : isGap x = false)
    (noEnd : x ≠ some b.closing) (outer : List Bracket) (s : Symbols) :
    closeBrackets true (b :: outer) (gap ++ x :: s) = .ok (b :: outer, x :: s) := by
  simp only [closeBrackets, blank.skip_cons noGap, if_neg noEnd]
  simp

theorem skipOn_list (close : closeBrackets fresh brackets s = .ok (.list :: outer, s')) (fuel : Nat) :
    skipOn fuel fresh brackets s = skipWithin fuel (.list :: outer) s' := by
  rw [skipOn, close]
  rfl

theorem skipOn_object (close : closeBrackets fresh brackets s = .ok (.object :: outer, s'))
    (key : skipKey s' = .ok rest) (fuel : Nat) :
    skipOn fuel fresh brackets s = skipWithin fuel (.object :: outer) rest := by
  rw [skipOn, close]
  change skipKey s' >>= skipWithin fuel (.object :: outer) = _
  rw [key]
  rfl

/-- What leads to a value is skipped up to some blanks before it. -/
theorem skipOn_next (blank : Blanks gap) (leads : Leads b lead) (value : IsValue v) (fresh : Bool)
    (outer : List Bracket) (s : Symbols) (fuel : Nat) : ∃ gap', Blanks gap' ∧ gap'.length ≤ lead.length ∧
      skipOn fuel fresh (b :: outer) (gap ++ (comma fresh ++ (lead ++ (v ++ s)))) =
        skipWithin fuel (b :: outer) (gap' ++ (v ++ s)) := by
  cases leads with
  | @item lead blank' =>
    cases fresh with
    | false => exact ⟨lead, blank', Nat.le_refl _, skipOn_list (closeBrackets_comma blank _ outer _) fuel⟩
    | true =>
      obtain ⟨x, w, rfl, noGap, -, noEnd⟩ := value.exists_front
      refine ⟨[], blanks_nil, Nat.zero_le _, ?_⟩
      have close := closeBrackets_fresh (blank.append blank') noGap (noEnd .list) outer (w ++ s)
      rw [List.append_assoc] at close
      exact skipOn_list close fuel
  | @field lead key gap' gap'' blank' isKey blank'' isBlank =>
    refine ⟨gap'', isBlank, by simp; omega, ?_⟩
    simp only [List.append_assoc, List.cons_append]
    cases fresh with
    | false =>
      exact skipOn_object (closeBrackets_comma blank _ outer _)
        (skipKey_of_isBody blank' isKey blank'' _) fuel
    | true =>
      have close := closeBrackets_fresh (b := .object) (x := some '"') (blank.append blank') rfl (by decide)
        outer (key ++ (gap' ++ some ':' :: (gap'' ++ (v ++ s))))
      rw [List.append_assoc] at close
      exact skipOn_object close (skipKey_of_isBody blanks_nil isKey blank'' _) fuel

/-- The skipper gets over a part of a text: if it goes on to the end of what follows, it gets there. -/
def Passes : Part → Symbols → Prop
  | .value, v => ∀ {brackets : List Bracket} {gap s rest : Symbols}, Blanks gap → Apart v s →
      (∀ fuel, s.length < fuel → skipOn fuel false brackets s = .ok rest) →
      ∀ fuel, (gap ++ (v ++ s)).length < fuel → skipWithin fuel brackets (gap ++ (v ++ s)) = .ok rest
  | .rest b fresh, t => ∀ {brackets : List Bracket} {s rest : Symbols},
      (∀ fuel, s.length < fuel → skipOn fuel false brackets s = .ok rest) →
      ∀ fuel, (t ++ s).length < fuel → skipOn fuel fresh (b :: brackets) (t ++ s) = .ok rest

/-- A value without a bracket is passed if its front is all of it. -/
theorem passes_of_skipFront (value : IsValue v)
    (whole : ∀ s, Apart v s → skipFront (v ++ s) = .ok (none, s)) : Passes .value v := by
  intro brackets gap s rest blank apart goesOn fuel enough
  cases fuel with
  | zero => exact absurd enough (Nat.not_lt_zero _)
  | succ fuel =>
    obtain ⟨x, w, rfl, noGap, -⟩ := value.exists_front
    have front := whole s apart
    rw [List.cons_append] at front ⊢
    rw [skipWithin_succ, blank.skip_cons noGap, front]
    simp only [List.length_append, List.length_cons] at enough
    exact goesOn fuel (by omega)

theorem Spells.passes {part : Part} {t : Symbols} (spells : Spells part t) : Passes part t := by
  induction spells with
  | null => exact passes_of_skipFront .null fun s _ => rfl
  | yes => exact passes_of_skipFront .yes fun s _ => rfl
  | no => exact passes_of_skipFront .no fun s _ => rfl
  | string isBody =>
    exact passes_of_skipFront (.string isBody) fun s _ => skipFront_quote isBody s
  | number isNumber =>
    exact passes_of_skipFront (.number isNumber) fun s apart => isNumber.skipFront (apart.cuts isNumber)
  | bracket b inside ih =>
    intro brackets gap s rest blank apart goesOn fuel enough
    cases fuel with
    | zero => exact absurd enough (Nat.not_lt_zero _)
    | succ fuel =>
      rw [List.cons_append, skipWithin_succ, blank.skip_cons (isGap_opening b), skipFront_opening]
      rw [List.length_append, List.cons_append, List.length_cons] at enough
      exact ih goesOn fuel (by omega)
  | @close b fresh gap blank =>
    intro brackets s rest goesOn fuel enough
    rw [List.append_assoc] at enough ⊢
    have close : skipOn fuel fresh (b :: brackets) (gap ++ some b.closing :: s) =
        skipOn fuel false brackets s :=
      congrArg (· >>= _) (closeBrackets_closing blank fresh b brackets s)
    simp only [List.length_append] at enough
    exact close.trans (goesOn fuel (by omega))
  | @next b fresh gap lead v t blank leads value later passed passedLater =>
    intro brackets s rest goesOn fuel enough
    simp only [List.append_assoc] at enough ⊢
    obtain ⟨gap', blank', shorter, next⟩ := skipOn_next blank leads value fresh brackets (t ++ s) fuel
    rw [next]
    refine passed blank' (later.apart v s) (passedLater goesOn) fuel ?_
    simp only [List.length_append] at enough ⊢
    omega

/-- A value is skipped to its end, if what follows it is apart from it. -/
theorem skipValue_of_isValue (blank : Blanks gap) (value : IsValue v) (apart : Apart v s) :
    skipValue (gap ++ (v ++ s)) = .ok s :=
  value.passes blank apart (fun _ _ => rfl) _ (Nat.lt_succ_self _)

/-! ## Whole texts -/

/-- Whether nothing but blanks is left behind the first value. -/
def isDocument (s : Symbols) : Bool :=
  match skipValue s with
  | .ok rest => rest.all isGap
  | .error _ => false

theorem isDocument_iff : isDocument s = true ↔ IsDocument s := by
  constructor
  · intro whole
    unfold isDocument at whole
    split at whole
    · next rest skip =>
      obtain ⟨gap, v, split, blank, value⟩ := exists_of_skipValue skip
      exact ⟨gap, v, rest, split, blank, value, List.all_eq_true.mp whole⟩
    · cases whole
  · rintro ⟨gap, v, gap', rfl, blank, value, blank'⟩
    rw [isDocument, skipValue_of_isValue blank value (.inr blank'.cuts)]
    exact List.all_eq_true.mpr blank'

instance (s : Symbols) : Decidable (IsDocument s) := decidable_of_iff _ isDocument_iff

/-- A text that begins with a value is one value just if blanks alone follow. -/
theorem isDocument_append_iff (blank : Blanks gap) (value : IsValue v) (apart : Apart v s) :
    IsDocument (gap ++ (v ++ s)) ↔ Blanks s := by
  rw [← isDocument_iff, isDocument, skipValue_of_isValue blank value apart]
  exact List.all_eq_true

end TokenSteward.Json
