import TokenSteward.Proofs.Json.RoundTrip

/-! # Written parts of larger values are read back

Numbers, names, choices, maps, and values that may be missing are read back from their written forms.
A record is read back if its fields are written in the order in which they are known, and only such
fields are left out as may be missing; these keep the values of the blank record.
-/

namespace TokenSteward.Json

open TokenSteward.Number

/-- A value whose text opens with a sign of its own: not with a gap, the end of a list, or the word for
nothing. -/
inductive Opens : Value → Prop where
  | whole (n : Int) : Opens (.number (.whole n))
  | string (t : String) : Opens (.string t)
  | array (vs : List Value) : Opens (.array vs)
  | object (fs : List (String × Value)) : Opens (.object fs)

theorem Opens.text {v : Value} (opens : Opens v) :
    ∃ c rest, v.text = c :: rest ∧ isGap (some c) = false ∧ c ≠ ']' ∧ c ≠ 'n' := by
  cases opens with
  | whole n =>
    obtain ⟨c, rest, front, lead⟩ := Reader.intText_eq_cons n
    have other {d : Char} (apart : ¬ (d = '-' ∨ isDigit d = true)) : c ≠ d := fun same =>
      apart (same ▸ lead)
    refine ⟨c, rest, ?_, isGap_of_number lead, other (by decide), other (by decide)⟩
    rw [Value.text, Numeral.text, front]
  | string t => exact ⟨'"', _, Value.text.eq_5 t, rfl, by decide, by decide⟩
  | array vs => exact ⟨'[', _, Value.text.eq_6 vs, rfl, by decide, by decide⟩
  | object fs => exact ⟨'\x7b', _, Value.text.eq_7 fs, rfl, by decide, by decide⟩

namespace Reader

variable {α β : Type} {r : Reader α} {v : Value} {a : α}

theorem fronts_of_opens (opens : Opens v) : Fronts v := by
  obtain ⟨c, rest, front, noGap, noEnd, _⟩ := opens.text
  exact ⟨c, rest, front, noGap, noEnd⟩

/-! ## Numbers -/

/-- A number without sign is read back if it does not exceed a bound within sixty-four bits. -/
theorem reads_natural (wanted : String) {n greatest : Nat} (fits : n ≤ greatest)
    (word : greatest ≤ maxWord) : (whole wanted 0 greatest).Reads (.nat n) n := by
  have least : Int64.minValue.toInt ≤ 0 := by decide
  exact reads_whole wanted ⟨Int.natCast_nonneg n, Int.ofNat_le.mpr fits⟩
    (Int.le_trans least (Int.natCast_nonneg n)) (Int.ofNat_le.mpr (Nat.le_trans fits word))

theorem reads_word8 (b : UInt8) : word8.Reads (.nat b.toNat) b := by
  have read := (reads_natural "u8" (Nat.le_of_lt_succ b.toNat_lt) (by decide)).map
    fun n => UInt8.ofNat n.toNat
  rwa [Int.toNat_natCast, UInt8.ofNat_toNat] at read

theorem reads_word16 (b : UInt16) : word16.Reads (.nat b.toNat) b := by
  have read := (reads_natural "u16" (Nat.le_of_lt_succ b.toNat_lt) (by decide)).map
    fun n => UInt16.ofNat n.toNat
  rwa [Int.toNat_natCast, UInt16.ofNat_toNat] at read

theorem reads_word64 {n : Nat} (fits : n ≤ maxWord) : word64.Reads (.nat n) (UInt64.ofNat n) :=
  (reads_natural "u64" fits (Nat.le_refl _)).map fun n => UInt64.ofNat n.toNat

/-! ## Lists -/

/-- A list is read back if each item is. -/
theorem reads_items (write : α → Value) (all : List α) (reads : ∀ a, r.Reads (write a) a)
    (opens : ∀ a, Opens (write a)) : (list r).Reads (.array (all.map write)) all := by
  refine reads_list ?_ fun v among => ?_
  · induction all with
    | nil => exact .nil
    | cons a all ih => exact .cons (reads a) ih
  · obtain ⟨a, _, rfl⟩ := List.mem_map.mp among
    exact fronts_of_opens (opens a)

/-! ## Values that may be missing -/

theorem reads_option_none : (option r).Reads .null none := by
  intro s _
  rfl

theorem reads_option_some (reads : r.Reads v a) (opens : Opens v) : (option r).Reads v (some a) := by
  intro s ends
  have value := reads.map some s ends
  obtain ⟨c, rest, front, noGap, _, word⟩ := opens.text
  rw [front] at value ⊢
  change option r (some c :: (rest.map some ++ s)) = _
  rw [option, skipGap_cons noGap]
  split
  · next same =>
    cases same
    exact absurd rfl word
  · exact value

/-- A value that may be missing is read back from the written value, or from the word for nothing. -/
theorem reads_option (write : α → Value) (reads : ∀ a, r.Reads (write a) a)
    (opens : ∀ a, Opens (write a)) (found : Option α) :
    (option r).Reads ((found.map write).getD .null) found := by
  cases found with
  | none => exact reads_option_none
  | some a => exact reads_option_some (reads a) (opens a)

/-! ## Choices -/

theorem choiceName_written {known : List String} {name : String} (among : name ∈ known) (s : Symbols) :
    choiceName known ((name.toList.flatMap escaped ++ ['"']).map some ++ s) = .ok (name, s) := by
  have found : known.contains name = true := by simpa using among
  simp only [choiceName, readString_written, atValue, found, Bind.bind, Except.bind, if_true]

/-- A choice without contents is read back from its name. -/
theorem reads_plain {cases : List (String × Case α)} {name : String}
    (found : cases.find? (·.1 == name) = some (name, .plain a)) :
    (choice cases).Reads (.string name) a := by
  intro s _
  have among : name ∈ cases.map (·.1) := List.mem_map.mpr ⟨_, List.mem_of_find?_eq_some found, rfl⟩
  rw [Value.text]
  change choice cases (some '"' :: ((name.toList.flatMap escaped ++ ['"']).map some ++ s)) = _
  simp only [choice, skipGap_cons (x := some '"') rfl, choiceName_written among, found, Bind.bind,
    Except.bind]

theorem reads_names {cases : List (String × α)} {name : String}
    (found : cases.find? (·.1 == name) = some (name, a)) : (names cases).Reads (.string name) a := by
  apply reads_plain
  rw [List.find?_map]
  change Option.map _ (cases.find? (·.1 == name)) = _
  rw [found]
  rfl

/-- A choice with contents is read back from an object whose only key is its name. -/
theorem reads_filled {cases : List (String × Case α)} {name : String}
    (found : cases.find? (·.1 == name) = some (name, .filled r)) (reads : r.Reads v a) :
    (choice cases).Reads (.object [(name, v)]) a := by
  intro s _
  have among : name ∈ cases.map (·.1) := List.mem_map.mpr ⟨_, List.mem_of_find?_eq_some found, rfl⟩
  have text : (Value.object [(name, v)]).text.map some ++ s = some '\x7b' :: some '"' ::
      ((name.toList.flatMap escaped ++ ['"']).map some ++
        some ':' :: (v.text.map some ++ some '\x7d' :: s)) := by
    simp [Value.text, Value.fieldsText, stringText]
  have key (t : Symbols) : choiceKey (cases.map (·.1))
      (some '"' :: ((name.toList.flatMap escaped ++ ['"']).map some ++ t)) = .ok (name, t) := by
    have next : nextKey true (some '"' :: ((name.toList.flatMap escaped ++ ['"']).map some ++ t)) =
      .ok (some ((name.toList.flatMap escaped ++ ['"']).map some ++ t),
        (name.toList.flatMap escaped ++ ['"']).map some ++ t) := rfl
    simp only [choiceKey, next, atValue, choiceName_written among, Bind.bind, Except.bind]
  have contents := reads (some '\x7d' :: s) rfl
  rw [text]
  simp only [choice, skipGap_cons (x := some '\x7b') rfl, key, Bind.bind, Except.bind]
  have behind (t : Symbols) : behindColon (some ':' :: t) = .ok t := rfl
  simp only [behind, atValue, found, contents, inside, skipGap_cons (x := some '\x7d') rfl]

/-! ## Maps -/

/-- Entries are found in the order in which they are written, each before all earlier ones. -/
theorem fills_entries {write : α → Value} {entries : List (String × α)}
    {next : String → List (String × α) → Symbols → Except Fault (List (String × α) × Symbols)}
    (reads : ∀ a, r.Reads (write a) a)
    (step : ∀ key found s t a, r t = .ok (a, s) →
      next key found (some ':' :: t) = .ok ((key, a) :: found, s))
    (found : List (String × α)) :
    Fills next (entries.map fun e => (e.1, write e.2)) found (entries.reverse ++ found) := by
  induction entries generalizing found with
  | nil => exact .nil found
  | cons e entries ih =>
    rw [List.reverse_cons, List.append_assoc]
    exact .cons (fun s ends => step _ _ _ _ _ (reads e.2 s ends)) (ih (e :: found))

/-- A map is read back entry by entry. -/
theorem reads_pairs (write : α → Value) (entries : List (String × α))
    (reads : ∀ a, r.Reads (write a) a) :
    (pairs r).Reads (.object (entries.map fun e => (e.1, write e.2))) entries := by
  intro s _
  have text : (Value.object (entries.map fun e => (e.1, write e.2))).text.map some ++ s =
      some '\x7b' :: ((Value.fieldsText (entries.map fun e => (e.1, write e.2))).map some ++
        some '\x7d' :: s) := by
    simp [Value.text]
  rw [text]
  simp only [pairs, skipGap_cons (x := some '\x7b') rfl]
  rw [fields_object (fills_entries reads ?step []) rfl]
  case step =>
    intro key found s t a here
    have behind : behindColon (some ':' :: t) = .ok t := rfl
    simp only [behind, atValue, here, inside, Bind.bind, Except.bind]
  simp only [Bind.bind, Except.bind, List.append_nil, List.reverse_reverse]

/-! ## Records -/

/-- The fields of a record are written in the order in which they are known. Fields that may be missing
are left out where the record already is as they would make it. -/
inductive Written : List (Field α) → List (String × Value) → α → α → Prop where
  | nil (a : α) : Written [] [] a a
  | cons {f : Field α} {known : List (Field α)} {fs : List (String × Value)} {v : Value} {set : α → α}
      {a b : α} (reads : f.read.Reads v set) (later : Written known fs (set a) b) :
      Written (f :: known) ((f.name, v) :: fs) a b
  | skip {f : Field α} {known : List (Field α)} {fs : List (String × Value)} {a b : α}
      (free : f.required = false) (later : Written known fs a b) : Written (f :: known) fs a b

variable {known : List (Field α)} {fs : List (String × Value)} {b : α}

/-- Written fields are read by their names, and all are read that have to be there. -/
theorem Written.fills {all : List (Field α)} (written : Written known fs a b) (seen : List String)
    (found : ∀ f ∈ known, all.find? (·.name == f.name) = some f)
    (once : (known.map (·.name)).Nodup) (fresh : ∀ f ∈ known, f.name ∉ seen) :
    ∃ seen', Fills (record.field all) fs (a, seen) (b, seen') ∧ (∀ n ∈ seen, n ∈ seen') ∧
      ∀ f ∈ known, f.required = true → f.name ∈ seen' := by
  induction written generalizing seen with
  | nil a => exact ⟨seen, .nil _, fun n here => here, by simp⟩
  | @cons f known fs v set a b reads later ih =>
    obtain ⟨apart, once⟩ := List.nodup_cons.mp once
    have new : f.name ∉ seen := fresh f List.mem_cons_self
    obtain ⟨seen', fills, kept, complete⟩ := ih (f.name :: seen)
      (fun g here => found g (List.mem_cons_of_mem f here)) once fun g here among => by
        rcases List.mem_cons.mp among with same | among
        · exact apart (List.mem_map.mpr ⟨g, here, same⟩)
        · exact fresh g (List.mem_cons_of_mem f here) among
    have absent : (a, seen).2.contains f.name = false := by simpa using new
    have step := record.reads_field (found f List.mem_cons_self) reads absent
    refine ⟨seen', .cons step fills, fun n here => kept n (List.mem_cons_of_mem _ here), ?_⟩
    exact List.forall_mem_cons.mpr ⟨fun _ => kept _ List.mem_cons_self, complete⟩
  | @skip f known fs a b free later ih =>
    obtain ⟨_, once⟩ := List.nodup_cons.mp once
    obtain ⟨seen', fills, kept, complete⟩ := ih seen
      (fun g here => found g (List.mem_cons_of_mem f here)) once
      fun g here => fresh g (List.mem_cons_of_mem f here)
    refine ⟨seen', fills, kept, List.forall_mem_cons.mpr ⟨fun needed => ?_, complete⟩⟩
    rw [free] at needed
    contradiction

/-- Fields with names of their own are found by these. -/
theorem find?_of_nodup (once : (known.map (·.name)).Nodup) :
    ∀ f ∈ known, known.find? (·.name == f.name) = some f := by
  induction known with
  | nil => simp
  | cons g known ih =>
    obtain ⟨apart, once⟩ := List.nodup_cons.mp once
    refine List.forall_mem_cons.mpr ⟨by simp, fun f here => ?_⟩
    have other : g.name ≠ f.name := fun same => apart (List.mem_map.mpr ⟨f, here, same.symm⟩)
    rw [List.find?_cons_of_neg (by simpa using other)]
    exact ih once f here

/-- A record is read back from its written fields. -/
theorem reads_written {label : String} (written : Written known fs a b)
    (once : (known.map (·.name)).Nodup) : (record label a known).Reads (.object fs) b := by
  obtain ⟨seen, fills, _, complete⟩ := written.fills [] (find?_of_nodup once) once (by simp)
  refine reads_record seen fills (List.find?_eq_none.mpr fun f here => ?_)
  have there := complete f here
  cases needed : f.required with
  | false => simp
  | true => simpa using there needed

end Reader

end TokenSteward.Json
