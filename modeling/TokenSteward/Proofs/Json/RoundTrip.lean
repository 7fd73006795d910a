import Mathlib.Data.List.Forall2
import TokenSteward.Json.Reader
import TokenSteward.Proofs.Json.Numbers
import TokenSteward.Proofs.Json.Strings

/-! # Written values are read back

A reader reads a value as something if it takes the value's written form off the front of an input and
stops behind it. Readers that are put together of others read what is put together of what those read:
lists item by item, objects field by field in any order in which no field comes twice.
-/

namespace TokenSteward.Json

open TokenSteward.Number

theorem skipGap_cons {x : Option Char} (gap : isGap x = false) (s : Symbols) :
    skipGap (x :: s) = x :: s := by
  rw [skipGap, List.dropWhile_cons_of_neg (by rw [gap]; exact Bool.false_ne_true)]

theorem isGap_of_number {c : Char} (lead : c = '-' ∨ isDigit c = true) : isGap (some c) = false := by
  have blank {d : Char} (other : ¬ (d = '-' ∨ isDigit d = true)) : c ≠ d := fun same =>
    other (same ▸ lead)
  unfold isGap
  split
  · next same => exact absurd (Option.some.inj same) (blank (by decide))
  · next same => exact absurd (Option.some.inj same) (blank (by decide))
  · next same => exact absurd (Option.some.inj same) (blank (by decide))
  · next same => exact absurd (Option.some.inj same) (blank (by decide))
  · rfl

namespace Reader

/-- A reader reads a written value as something. -/
def Reads {α : Type} (r : Reader α) (v : Value) (a : α) : Prop :=
  ∀ s, endsValue s = true → r (v.text.map some ++ s) = .ok (a, s)

variable {α β : Type} {r : Reader α} {v : Value} {a : α}

theorem Reads.map (reads : r.Reads v a) (f : α → β) : (r.map f).Reads v (f a) := by
  intro s ends
  simp only [Reader.map, reads s ends, Bind.bind, Except.bind]

theorem Reads.refine (reads : r.Reads v a) {f : α → Except String β} {b : β} (fine : f a = .ok b) :
    (r.refine f).Reads v b := by
  intro s ends
  simp only [Reader.refine, reads s ends, Bind.bind, Except.bind, fine]

/-- What is alone in an input is read. -/
theorem Reads.front (reads : r.Reads v a) : r.front (v.text.map some) = .ok a := by
  have whole := reads [] rfl
  rw [List.append_nil] at whole
  simp only [Reader.front, whole, Bind.bind, Except.bind]

/-- What is alone in an input is all of it. -/
theorem Reads.entire (reads : r.Reads v a) : r.entire (v.text.map some) = .ok a := by
  have whole := reads [] rfl
  rw [List.append_nil] at whole
  simp only [Reader.entire, whole, Bind.bind, Except.bind]
  rfl

/-! ## Texts and numbers -/

theorem reads_text (wanted t : String) : (text wanted).Reads (.string t) t := by
  intro s _
  rw [Value.text]
  change atValue (readString ((t.toList.flatMap escaped ++ ['"']).map some ++ s)) = _
  rw [readString_written]
  rfl

theorem reads_string (t : String) : string.Reads (.string t) t := reads_text _ t

/-- A number's text has no blank in front, but a digit or a sign. -/
theorem intText_eq_cons (n : Int) :
    ∃ c rest, (intText n).toList = c :: rest ∧ (c = '-' ∨ Number.isDigit c = true) := by
  cases n with
  | ofNat n =>
    obtain ⟨c, rest, front, _⟩ := digits_eq_cons n
    exact ⟨c, rest, String.toList_ofList.trans front,
      .inr (isDigit_of_mem_digits (front ▸ List.mem_cons_self))⟩
  | negSucc n => exact ⟨'-', digits (n + 1), by simp [intText, natText], .inl rfl⟩

theorem reads_whole (wanted : String) {least greatest n : Int} (inside : least ≤ n ∧ n ≤ greatest)
    (lower : Int64.minValue.toInt ≤ n) (upper : n ≤ maxWord) :
    (whole wanted least greatest).Reads (.number (.whole n)) n := by
  intro s ends
  have read := readNumber_intText lower upper ends
  obtain ⟨c, rest, front, lead⟩ := intText_eq_cons n
  rw [front] at read
  rw [Value.text, Numeral.text, front]
  change readNumber (some c :: (rest.map some ++ s)) = _ at read
  change whole wanted least greatest (some c :: (rest.map some ++ s)) = _
  simp only [whole, skipGap_cons (isGap_of_number lead), lead, if_true, read, atValue, Bind.bind,
    Except.bind, inside, and_self]

theorem reads_signed64 (n : Int64) : signed64.Reads (.number (.whole n.toInt)) n := by
  have least : Int64.minValue.toInt ≤ n.toInt := Int64.le_toInt n
  have greatest : n.toInt ≤ Int64.maxValue.toInt := Int.le_of_lt_add_one (Int64.toInt_lt n)
  have word : Int64.maxValue.toInt ≤ maxWord := by decide
  have whole := (reads_whole "i64" ⟨least, greatest⟩ least (Int.le_trans greatest word)).map
    Int64.ofInt
  rw [Int64.ofInt_toInt] at whole
  exact whole

/-! ## Lists -/

/-- A value's text does not begin like a gap or like the end of a list. -/
def Fronts (v : Value) : Prop :=
  ∃ c rest, v.text = c :: rest ∧ isGap (some c) = false ∧ c ≠ ']'

theorem fronts_string (t : String) : Fronts (.string t) :=
  ⟨'"', _, Value.text.eq_5 t, rfl, by decide⟩

/-- The items of a list behind the first one, as they are written. -/
def laterItems (vs : List Value) : List Char := vs.flatMap fun v => ',' :: v.text

theorem itemsText_cons (v : Value) (vs : List Value) :
    Value.itemsText (v :: vs) = v.text ++ laterItems vs := by
  induction vs generalizing v with
  | nil => simp [Value.itemsText, laterItems]
  | cons w vs ih => simp [Value.itemsText, laterItems, ih w]

theorem endsValue_laterItems (vs : List Value) (s : Symbols) :
    endsValue ((laterItems vs).map some ++ some ']' :: s) = true := by
  cases vs <;> rfl

theorem nextItem_first (fronts : Fronts v) (s : Symbols) :
    nextItem true (v.text.map some ++ s) = .ok (true, v.text.map some ++ s) := by
  obtain ⟨c, rest, front, noGap, noEnd⟩ := fronts
  rw [front]
  change nextItem true (some c :: (rest.map some ++ s)) = .ok (true, some c :: (rest.map some ++ s))
  rw [nextItem, skipGap_cons noGap]
  split
  · next same => cases same
  · next same => cases same; exact absurd rfl noEnd
  · next same => cases same; rfl

theorem nextItem_later (fronts : Fronts v) (s : Symbols) :
    nextItem false (some ',' :: (v.text.map some ++ s)) = .ok (true, v.text.map some ++ s) := by
  obtain ⟨c, rest, front, noGap, noEnd⟩ := fronts
  rw [front]
  change nextItem false (some ',' :: some c :: (rest.map some ++ s)) =
    .ok (true, some c :: (rest.map some ++ s))
  rw [nextItem, skipGap_cons rfl]
  split
  · next same => cases same
  · next same => cases same
  · next same =>
    cases same
    rw [if_neg Bool.false_ne_true, if_pos rfl, skipGap_cons noGap]
    split
    · next same => cases same
    · next same => cases same; exact absurd rfl noEnd
    · rfl

/-- The later items of a list are read back, up to its end. -/
theorem items_later {vs : List Value} {as : List α} (reads : List.Forall₂ r.Reads vs as)
    (fronts : ∀ v ∈ vs, Fronts v) {fuel : Nat} (enough : vs.length < fuel) (index : Nat) (s : Symbols) :
    items r fuel (index + 1) ((laterItems vs).map some ++ some ']' :: s) = .ok (as, some ']' :: s) := by
  induction reads generalizing fuel index with
  | nil =>
    obtain ⟨fuel, rfl⟩ := Nat.exists_eq_succ_of_ne_zero (Nat.ne_of_gt enough)
    rfl
  | @cons v a vs as here later ih =>
    obtain ⟨fuel, rfl⟩ := Nat.exists_eq_succ_of_ne_zero (Nat.ne_of_gt (Nat.zero_lt_of_lt enough))
    have next := nextItem_later (fronts v List.mem_cons_self)
      ((laterItems vs).map some ++ some ']' :: s)
    have item := here _ (endsValue_laterItems vs s)
    have rest := ih (fun w among => fronts w (List.mem_cons_of_mem v among))
      (Nat.lt_of_succ_lt_succ enough) (index + 1)
    have text : (laterItems (v :: vs)).map some ++ some ']' :: s =
        some ',' :: (v.text.map some ++ ((laterItems vs).map some ++ some ']' :: s)) := by
      simp [laterItems]
    rw [text, items]
    have other : (index + 1 == 0) = false := rfl
    simp only [other, next, atValue, item, inside, rest, Bind.bind, Except.bind, if_true]

theorem length_laterItems (vs : List Value) : vs.length ≤ (laterItems vs).length := by
  induction vs with
  | nil => exact Nat.le_refl 0
  | cons v vs ih =>
    have more : laterItems (v :: vs) = ',' :: (v.text ++ laterItems vs) := rfl
    simp only [more, List.length_cons, List.length_append]
    omega

/-- A list whose items are read is read. -/
theorem reads_list {vs : List Value} {as : List α} (reads : List.Forall₂ r.Reads vs as)
    (fronts : ∀ v ∈ vs, Fronts v) : (list r).Reads (.array vs) as := by
  intro s _
  rw [Value.text]
  cases reads with
  | nil => rfl
  | @cons v a vs as here later =>
    have text : ('[' :: Value.itemsText (v :: vs) ++ [']']).map some ++ s =
        some '[' :: (v.text.map some ++ ((laterItems vs).map some ++ some ']' :: s)) := by
      simp [itemsText_cons]
    have next := nextItem_first (fronts v List.mem_cons_self) ((laterItems vs).map some ++ some ']' :: s)
    have item := here _ (endsValue_laterItems vs s)
    have enough : vs.length < (v.text.map some ++ ((laterItems vs).map some ++ some ']' :: s)).length := by
      have := length_laterItems vs
      simp only [List.length_append, List.length_map, List.length_cons]
      omega
    have rest := items_later later (fun w among => fronts w (List.mem_cons_of_mem v among)) enough 0 s
    rw [text]
    simp only [list, skipGap_cons (x := some '[') rfl, items, Nat.reduceBEq, next, atValue, item, inside,
      rest, Bind.bind, Except.bind, if_true]
    rfl

theorem reads_strings (all : List String) : (list string).Reads (.strings all) all := by
  refine reads_list ?_ fun v among => ?_
  · induction all with
    | nil => exact .nil
    | cons t all ih => exact .cons (reads_string t) ih
  · obtain ⟨t, _, rfl⟩ := List.mem_map.mp among
    exact fronts_string t

/-! ## Objects -/

/-- A field as it is written. -/
def fieldText (f : String × Value) : List Char := stringText f.1 ++ ':' :: f.2.text

/-- The fields of an object behind the first one, as they are written. -/
def laterFields (fs : List (String × Value)) : List Char := fs.flatMap fun f => ',' :: fieldText f

theorem fieldsText_cons (f : String × Value) (fs : List (String × Value)) :
    Value.fieldsText (f :: fs) = fieldText f ++ laterFields fs := by
  induction fs generalizing f with
  | nil => simp [Value.fieldsText, laterFields, fieldText]
  | cons g fs ih => simp [Value.fieldsText, laterFields, ih g, fieldText]

theorem endsValue_laterFields (fs : List (String × Value)) (s : Symbols) :
    endsValue ((laterFields fs).map some ++ some '\x7d' :: s) = true := by
  cases fs <;> rfl

theorem length_laterFields (fs : List (String × Value)) : fs.length ≤ (laterFields fs).length := by
  induction fs with
  | nil => exact Nat.le_refl 0
  | cons f fs ih =>
    have more : laterFields (f :: fs) = ',' :: (fieldText f ++ laterFields fs) := rfl
    simp only [more, List.length_cons, List.length_append]
    omega

variable {σ : Type} {read : String → σ → Symbols → Except Fault (σ × Symbols)}

/-- The written fields of an object lead from one state to another, each read by its name. -/
inductive Fills (read : String → σ → Symbols → Except Fault (σ × Symbols)) :
    List (String × Value) → σ → σ → Prop where
  | nil (state : σ) : Fills read [] state state
  | cons {name : String} {v : Value} {fs : List (String × Value)} {before next after : σ}
      (reads : ∀ s, endsValue s = true →
        read name before (some ':' :: (v.text.map some ++ s)) = .ok (next, s))
      (later : Fills read fs next after) : Fills read ((name, v) :: fs) before after

theorem fields_step {name : String} {v : Value} {before next : σ} {s : Symbols}
    (reads : read name before (some ':' :: (v.text.map some ++ s)) = .ok (next, s)) (first : Bool)
    (fuel : Nat) :
    fields read (fuel + 1) first before
        ((if first then [] else [some ',']) ++ ((fieldText (name, v)).map some ++ s)) =
      fields read fuel false next s := by
  have key : nextKey first ((if first then [] else [some ',']) ++ ((fieldText (name, v)).map some ++ s)) =
      .ok (some ((name.toList.flatMap escaped ++ ['"']).map some ++ (some ':' :: (v.text.map some ++ s))),
        (name.toList.flatMap escaped ++ ['"']).map some ++ (some ':' :: (v.text.map some ++ s))) := by
    have text : (fieldText (name, v)).map some ++ s = some '"' ::
        ((name.toList.flatMap escaped ++ ['"']).map some ++ (some ':' :: (v.text.map some ++ s))) := by
      simp [fieldText, stringText]
    rw [text]
    cases first <;> rfl
  rw [fields]
  simp only [key, atValue, inside, readString_written, reads, Bind.bind, Except.bind]

/-- The later fields of an object are read, up to its end. -/
theorem fields_later {fs : List (String × Value)} {before after : σ} (fills : Fills read fs before after)
    {fuel : Nat} (enough : fs.length < fuel) (s : Symbols) :
    fields read fuel false before ((laterFields fs).map some ++ some '\x7d' :: s) = .ok (after, s) := by
  induction fills generalizing fuel with
  | nil state =>
    obtain ⟨fuel, rfl⟩ := Nat.exists_eq_succ_of_ne_zero (Nat.ne_of_gt enough)
    rfl
  | @cons name v fs before next after reads later ih =>
    obtain ⟨fuel, rfl⟩ := Nat.exists_eq_succ_of_ne_zero (Nat.ne_of_gt (Nat.zero_lt_of_lt enough))
    have step := fields_step (reads _ (endsValue_laterFields fs s)) false fuel
    have text : (laterFields ((name, v) :: fs)).map some ++ some '\x7d' :: s = [some ','] ++
        ((fieldText (name, v)).map some ++ ((laterFields fs).map some ++ some '\x7d' :: s)) := by
      simp [laterFields]
    rw [text]
    exact step.trans (ih (Nat.lt_of_succ_lt_succ enough))

/-- The fields of an object are read behind its opening bracket. -/
theorem fields_object {fs : List (String × Value)} {before after : σ} (fills : Fills read fs before after)
    {s t : Symbols} (text : (Value.fieldsText fs).map some ++ some '\x7d' :: s = t) :
    fields read (t.length + 1) true before t = .ok (after, s) := by
  cases fills with
  | nil =>
    subst text
    rfl
  | @cons name v fs _ next _ reads later =>
    have front : t =
        [] ++ ((fieldText (name, v)).map some ++ ((laterFields fs).map some ++ some '\x7d' :: s)) := by
      simp [← text, fieldsText_cons]
    have enough : fs.length < t.length := by
      have := length_laterFields fs
      simp only [front, List.length_append, List.length_map, List.length_cons]
      omega
    have step := fields_step (reads _ (endsValue_laterFields fs s)) true t.length
    rw [if_pos rfl, ← front] at step
    exact step.trans (fields_later later enough s)

/-- A field that is known and new to a record is read into it. -/
theorem record.reads_field {known : List (Field α)} {name : String} {f : Field α} {set : α → α}
    (found : known.find? (·.name == name) = some f) (reads : f.read.Reads v set) {state : α × List String}
    (fresh : state.2.contains name = false) (s : Symbols) (ends : endsValue s = true) :
    record.field known name state (some ':' :: (v.text.map some ++ s)) =
      .ok ((set state.1, name :: state.2), s) := by
  have behind : behindColon (some ':' :: (v.text.map some ++ s)) = .ok (v.text.map some ++ s) := rfl
  simp only [record.field, found, fresh, behind, atValue, reads s ends, inside, Bind.bind, Except.bind,
    Bool.false_eq_true, if_false]

theorem Reads.required (reads : r.Reads v a) (name : String) (set : α → β → β) :
    (Reader.required name r set).read.Reads v (set a) :=
  reads.map set

theorem Reads.optional (reads : r.Reads v a) (name : String) (set : α → β → β) :
    (Reader.optional name r set).read.Reads v (set a) :=
  reads.map set

/-- A record whose fields are read one after the other, none twice and every required one, is read. -/
theorem reads_record {label : String} {blank : α} {known : List (Field α)} {fs : List (String × Value)}
    (seen : List String) (fills : Fills (record.field known) fs (blank, []) (a, seen))
    (complete : (known.find? fun f => f.required && !seen.contains f.name) = none) :
    (record label blank known).Reads (.object fs) a := by
  intro s _
  have text : (Value.object fs).text.map some ++ s =
      some '\x7b' :: ((Value.fieldsText fs).map some ++ some '\x7d' :: s) := by
    simp [Value.text]
  have read := fields_object fills (s := s) rfl
  rw [text]
  simp only [record, skipGap_cons (x := some '\x7b') rfl, read, complete, Bind.bind, Except.bind]

end Reader

end TokenSteward.Json
