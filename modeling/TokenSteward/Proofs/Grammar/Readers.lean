import TokenSteward.Json.Reader
import TokenSteward.Proofs.Grammar.Skipped

/-! # Readers go by the first value

What a reader takes off the front of an input is one value, and its answer is decided by that value
alone: what follows is neither read nor missed, as long as it is apart from the value. Readers that are
put together from such readers are such readers again.
-/

namespace TokenSteward.Json

open TokenSteward.Number

variable {ε α β : Type} {s rest v gap : Symbols} {c : Char} {wanted : String}

/-! ## Answers decided by a text -/

namespace Settles

variable {read : Symbols → Except ε (α × Symbols)} {fit fit' : Symbols → Prop} {w : Symbols}

/-- A reader that answers in front of a text as another one does in front of its own is decided with it. -/
theorem congr {read' : Symbols → Except ε (α × Symbols)} (settled : Settles read v fit)
    (fits : ∀ s, fit' s → fit s) (same : ∀ s, fit' s → read' (w ++ s) = read (v ++ s)) :
    Settles read' w fit' := by
  obtain ⟨outcome, read⟩ := settled
  exact ⟨outcome, fun s isFit => (same s isFit).trans (read s (fits s isFit))⟩

/-- What goes on behind a text with another one is decided by both. -/
theorem bind {next : α → Symbols → Except ε (β × Symbols)} (settled : Settles read v fit)
    (later : ∀ a, Settles (next a) w fit') (fits : ∀ s, fit' s → fit (w ++ s)) :
    Settles (fun s => read s >>= fun found => next found.1 found.2) (v ++ w) fit' := by
  obtain ⟨outcome, read⟩ := settled
  cases outcome with
  | error e =>
    refine ⟨.error e, fun s isFit => ?_⟩
    simp only [List.append_assoc, read _ (fits s isFit)]
    rfl
  | ok a =>
    refine (later a).congr (fun _ => id) fun s isFit => ?_
    simp only [List.append_assoc, read _ (fits s isFit)]
    rfl

/-- What is made of an answer is decided with it. -/
theorem judged (settled : Settles read v fit) (judge : α → Except ε β) :
    Settles (fun s => read s >>= fun found => judge found.1 >>= fun b => .ok (b, found.2)) v fit := by
  obtain ⟨outcome, read⟩ := settled
  refine ⟨outcome >>= judge, fun s isFit => ?_⟩
  simp only [read s isFit]
  cases outcome with
  | error => rfl
  | ok a =>
    change judge a >>= _ = Except.map _ (judge a)
    cases judge a <;> rfl

end Settles

theorem Settles.atValue {read : Symbols → Except Cause (α × Symbols)} {fit : Symbols → Prop}
    (settled : Settles read v fit) : Settles (fun s => Json.atValue (read s)) v fit := by
  obtain ⟨outcome, read⟩ := settled
  refine ⟨Json.atValue outcome, fun s isFit => ?_⟩
  simp only [read s isFit]
  cases outcome <;> rfl

theorem Settles.inside {read : Symbols → Except Fault (α × Symbols)} {fit : Symbols → Prop}
    (settled : Settles read v fit) (step : Step) : Settles (fun s => Json.inside step (read s)) v fit := by
  obtain ⟨outcome, read⟩ := settled
  refine ⟨Json.inside step outcome, fun s isFit => ?_⟩
  simp only [read s isFit]
  cases outcome <;> rfl

theorem eq_ok_of_atValue {x : Except Cause α} {a : α} (found : atValue x = .ok a) : x = .ok a := by
  cases x with
  | error => cases found
  | ok => exact congrArg Except.ok (Except.ok.inj found)

theorem eq_ok_of_inside {step : Step} {x : Except Fault α} {a : α} (found : inside step x = .ok a) :
    x = .ok a := by
  cases x with
  | error => cases found
  | ok => exact congrArg Except.ok (Except.ok.inj found)

/-! ## Values of another kind -/

theorem unwanted_ne_ok {a : α} : unwanted wanted s ≠ .ok a := by
  intro found
  unfold unwanted at found
  split at found
  · cases found
  · obtain ⟨_, -, found⟩ := exists_of_bind_eq_ok found
    cases found
  · obtain ⟨_, -, found⟩ := exists_of_bind_eq_ok found
    cases found
  · obtain ⟨_, -, found⟩ := exists_of_bind_eq_ok found
    cases found
  · obtain ⟨_, -, found⟩ := exists_of_bind_eq_ok found
    cases found
  · cases found
  · cases found
  · split at found
    · obtain ⟨_, -, found⟩ := exists_of_bind_eq_ok found
      cases found
    · cases found
  · cases found

theorem unwanted_number (lead : c = '-' ∨ isDigit c = true) (s : Symbols) :
    unwanted (α := α) wanted (some c :: s) =
      atValue (readNumber (some c :: s)) >>= fun found => here (.wrongType (.number found.1) wanted) := by
  have other {d : Char} (apart : ¬ (d = '-' ∨ isDigit d = true)) : c ≠ d := fun same => apart (same ▸ lead)
  rw [unwanted.eq_8 wanted c s (other (by decide)) (other (by decide)) (other (by decide))
    (other (by decide)) (other (by decide)) (other (by decide)), if_pos lead]

/-- The fault of a value of another kind is decided by it. -/
theorem settles_unwanted (value : IsValue v) :
    Settles (unwanted (α := α × Symbols) wanted) v (Apart v) := by
  cases value with
  | null => exact ⟨.error _, fun s _ => rfl⟩
  | yes => exact ⟨.error _, fun s _ => rfl⟩
  | no => exact ⟨.error _, fun s _ => rfl⟩
  | bracket b => cases b <;> exact ⟨.error _, fun s _ => rfl⟩
  | @string body isBody =>
    have judged := (settles_readString isBody).atValue.judged (β := α) fun t =>
      here (.wrongType (.string t) wanted)
    refine judged.congr (fun _ _ => trivial) fun s _ => ?_
    change atValue (readString (body ++ s)) >>= _ = atValue (readString (body ++ s)) >>= _
    cases readString (body ++ s) <;> rfl
  | number number =>
    have judged := number.settles_readNumber.atValue.judged (β := α) fun n =>
      here (.wrongType (.number n) wanted)
    refine judged.congr (fun s apart => apart.cuts number) fun s _ => ?_
    obtain ⟨c, cs, rfl, lead⟩ := number.exists_front
    rw [List.map_cons, List.cons_append, unwanted_number lead]
    cases readNumber (some c :: (cs.map some ++ s)) <;> rfl

/-! ## Readers -/

namespace Reader

/-- The reader takes one value off the front of an input, with the blanks before it, and goes by it
alone. -/
structure GoesByValue (r : Reader α) : Prop where
  skips : ∀ {gap}, Blanks gap → ∀ s, r (gap ++ s) = r s
  begins : ∀ {s a rest}, r s = .ok (a, rest) → ∃ gap v, s = gap ++ (v ++ rest) ∧ Blanks gap ∧ IsValue v
  settles : ∀ {v}, IsValue v → Settles r v (Apart v)

theorem GoesByValue.settles_append {r : Reader α} (goes : r.GoesByValue) (blank : Blanks gap)
    (value : IsValue v) : Settles r (gap ++ v) (Apart v) :=
  (goes.settles value).congr (fun _ => id) fun s _ => by rw [List.append_assoc, goes.skips blank]

/-- A reader that refuses a value as one of another kind is decided by it. -/
theorem settles_of_unwanted {r : Reader α} (wanted : String) (value : IsValue v)
    (refuses : ∀ s, r (v ++ s) = unwanted wanted (v ++ s)) : Settles r v (Apart v) :=
  (settles_unwanted value).congr (fun _ => id) fun s _ => refuses s

/-! ### Texts -/

theorem text_of_ne (front : ∀ t, skipGap s ≠ some '"' :: t) :
    text wanted s = unwanted wanted (skipGap s) := by
  unfold text
  split
  · next t same => exact absurd same (front t)
  · rfl

theorem goesByValue_text (wanted : String) : (text wanted).GoesByValue where
  skips blank s := by rw [text, blank.skip, text]
  begins read := by
    unfold text at read
    split at read
    · next behind =>
      obtain ⟨gap, rfl, blank⟩ := exists_of_skipGap behind
      obtain ⟨body, rfl, isBody⟩ := exists_of_readString (eq_ok_of_atValue read)
      exact ⟨gap, some '"' :: body, rfl, blank, .string isBody⟩
    · exact absurd read unwanted_ne_ok
  settles {v} value := by
    by_cases quoted : ∃ body, v = some '"' :: body
    · obtain ⟨body, rfl⟩ := quoted
      refine (settles_readString value.follows).atValue.congr (fun _ _ => trivial) fun s _ => ?_
      rw [text, value.skip]
      rfl
    · refine settles_of_unwanted wanted value fun s => ?_
      rw [text_of_ne (value.skip_ne quoted s), value.skip]

theorem goesByValue_string : string.GoesByValue := goesByValue_text _

/-! ### Numbers -/

/-- The whole number that a number stands for, if it is one between two bounds. -/
def wholeOf (wanted : String) (least greatest : Int) : Numeral → Except Fault Int
  | .whole n => if least ≤ n ∧ n ≤ greatest then .ok n else here (.wrongValue n wanted)
  | n => here (.wrongType (.number n) wanted)

theorem whole_of_number {least greatest : Int} {t : Symbols} (front : skipGap s = some c :: t)
    (lead : c = '-' ∨ isDigit c = true) :
    whole wanted least greatest s = atValue (readNumber (some c :: t)) >>= fun found =>
      wholeOf wanted least greatest found.1 >>= fun n => .ok (n, found.2) := by
  unfold whole
  rw [front]
  refine (if_pos lead).trans ?_
  cases readNumber (some c :: t) with
  | error => rfl
  | ok found =>
    obtain ⟨n | _, rest⟩ := found
    · change (if _ then _ else _) = (if _ then _ else _) >>= _
      split <;> rfl
    · rfl

theorem whole_of_not_number {least greatest : Int}
    (front : ∀ c t, skipGap s = some c :: t → ¬ (c = '-' ∨ isDigit c = true)) :
    whole wanted least greatest s = unwanted wanted (skipGap s) := by
  unfold whole
  split
  · next c t same =>
    rw [same]
    exact if_neg (front c t same)
  · rfl

theorem goesByValue_whole (wanted : String) (least greatest : Int) :
    (whole wanted least greatest).GoesByValue where
  skips blank s := by rw [whole, blank.skip, whole]
  begins {s a rest} read := by
    by_cases number : ∃ c t, skipGap s = some c :: t ∧ (c = '-' ∨ isDigit c = true)
    · obtain ⟨c, t, behind, lead⟩ := number
      rw [whole_of_number behind lead] at read
      obtain ⟨⟨n, rest'⟩, number, judged⟩ := exists_of_bind_eq_ok read
      obtain ⟨n', -, same⟩ := exists_of_bind_eq_ok judged
      cases same
      obtain ⟨cs, whole, number⟩ := exists_of_readNumber (eq_ok_of_atValue number)
      obtain ⟨gap, rfl, blank⟩ := exists_of_skipGap behind
      exact ⟨gap, cs.map some, by rw [whole], blank, .number number⟩
    · rw [whole_of_not_number fun c t behind lead => number ⟨c, t, behind, lead⟩] at read
      exact absurd read unwanted_ne_ok
  settles {v} value := by
    by_cases number : ∃ c w, v = some c :: w ∧ (c = '-' ∨ isDigit c = true)
    · obtain ⟨c, w, rfl, lead⟩ := number
      obtain ⟨cs, whole, number⟩ := (follows_number lead w).mp value.follows
      refine (number.settles_readNumber.atValue.judged (wholeOf wanted least greatest)).congr
        (fun s apart => (whole ▸ apart).cuts number) fun s _ => ?_
      rw [whole_of_number (value.skip s) lead]
      exact congrArg (fun t => atValue (readNumber t) >>= _) (congrArg (· ++ s) whole)
    · refine settles_of_unwanted wanted value fun s => ?_
      rw [whole_of_not_number, value.skip]
      intro c t front lead
      rw [value.skip] at front
      obtain ⟨w, same⟩ := value.exists_of_append front
      exact number ⟨c, w, same, lead⟩

/-! ### Made of one reader -/

theorem GoesByValue.map {r : Reader α} (goes : r.GoesByValue) (f : α → β) : (r.map f).GoesByValue where
  skips blank s := by rw [Reader.map, goes.skips blank, Reader.map]
  begins read := by
    obtain ⟨⟨a, rest⟩, read, same⟩ := exists_of_bind_eq_ok read
    cases same
    exact goes.begins read
  settles value := (goes.settles value).judged fun a => .ok (f a)

/-- A value that passes a check, or the message of the check. -/
def refined (f : α → Except String β) (a : α) : Except Fault β :=
  match f a with
  | .ok b => .ok b
  | .error message => here (.refused message)

theorem GoesByValue.refine {r : Reader α} (goes : r.GoesByValue) (f : α → Except String β) :
    (r.refine f).GoesByValue where
  skips blank s := by rw [Reader.refine, goes.skips blank, Reader.refine]
  begins read := by
    obtain ⟨⟨a, rest⟩, read, judged⟩ := exists_of_bind_eq_ok read
    dsimp only at judged
    split at judged
    · cases judged
      exact goes.begins read
    · cases judged
  settles {v} value := by
    refine ((goes.settles value).judged (refined f)).congr (fun _ => id) fun s _ => ?_
    change r (v ++ s) >>= _ = r (v ++ s) >>= _
    cases r (v ++ s) with
    | error => rfl
    | ok found =>
      cases judged : f found.1 with
      | ok => simp only [refined, Bind.bind, Except.bind, judged]
      | error => simp only [refined, Bind.bind, Except.bind, judged, here]

theorem option_of_ne {r : Reader α} (front : ∀ t, skipGap s ≠ some 'n' :: t) :
    option r s = r.map some (skipGap s) := by
  unfold option
  split
  · next t same => exact absurd same (front t)
  · rfl

theorem GoesByValue.option {r : Reader α} (goes : r.GoesByValue) : (Reader.option r).GoesByValue where
  skips blank s := by rw [Reader.option, blank.skip, Reader.option]
  begins {s a rest} read := by
    by_cases word : ∃ t, skipGap s = some 'n' :: t
    · obtain ⟨t, behind⟩ := word
      simp only [Reader.option, behind] at read
      obtain ⟨rest', word, same⟩ := exists_of_bind_eq_ok read
      cases same
      obtain ⟨gap, rfl, blank⟩ := exists_of_skipGap behind
      obtain rfl := eq_of_readWord (eq_ok_of_atValue word)
      exact ⟨gap, _, rfl, blank, .null⟩
    · rw [option_of_ne fun t behind => word ⟨t, behind⟩] at read
      obtain ⟨gap, v, behind, blank, value⟩ := (goes.map some).begins read
      obtain ⟨gap', split, blank'⟩ := exists_blanks s
      exact ⟨gap' ++ gap, v, by rw [List.append_assoc, ← behind, ← split], blank'.append blank, value⟩
  settles {v} value := by
    by_cases word : ∃ w, v = some 'n' :: w
    · obtain ⟨w, rfl⟩ := word
      obtain rfl : w = _ := value.follows
      refine ⟨.ok none, fun s _ => ?_⟩
      rw [Reader.option, value.skip]
      rfl
    · refine ((goes.map some).settles value).congr (fun _ => id) fun s _ => ?_
      rw [option_of_ne (value.skip_ne word s), value.skip]

end Reader

end TokenSteward.Json
