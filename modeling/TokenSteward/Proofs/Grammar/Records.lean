import TokenSteward.Proofs.Grammar.Readers

/-! # Records go by the first value

A record is read from a list or an object of the grammar, whose end is the end of what is read. What its
fields answer is decided by their values, so what the record answers is decided by the bracket alone, with
nothing asked of what follows it. The fuel for the fields of an object is no part of the answer.
-/

namespace TokenSteward.Json.Reader

open TokenSteward.Number

variable {α β σ : Type} {s rest v gap gap' t : Symbols} {first more fresh : Bool} {index count : Nat}
  {label : String} {a b : α} {known : List (Field α)}

/-! ## Items -/

theorem exists_of_nextItem (next : nextItem first s = .ok (more, rest)) :
    (more = false ∧ ∃ gap t, s = gap ++ some ']' :: t ∧ rest = some ']' :: t ∧ Blanks gap) ∨
      (more = true ∧ ∃ gap gap', s = gap ++ (comma first ++ (gap' ++ rest)) ∧ Blanks gap ∧ Blanks gap') := by
  unfold nextItem at next
  split at next
  · cases next
  · next t behind =>
    cases next
    obtain ⟨gap, rfl, blank⟩ := exists_of_skipGap behind
    exact .inl ⟨rfl, gap, t, rfl, rfl, blank⟩
  · next x t _ behind =>
    obtain ⟨gap, rfl, blank⟩ := exists_of_skipGap behind
    split at next
    · next isFirst =>
      cases next
      obtain rfl := isFirst
      exact .inr ⟨rfl, gap, [], rfl, blank, blanks_nil⟩
    · next notFirst =>
      obtain rfl : first = false := by simpa using notFirst
      split at next
      · next isComma =>
        obtain rfl := isComma
        split at next
        · cases next
        · cases next
        · cases next
          obtain ⟨gap', split, blank'⟩ := exists_blanks t
          exact .inr ⟨rfl, gap, gap', congrArg (gap ++ some ',' :: ·) split, blank, blank'⟩
      · cases next

theorem exists_of_endItems (ends : endItems s = .ok rest) :
    ∃ gap, s = gap ++ some ']' :: rest ∧ Blanks gap := by
  unfold endItems at ends
  split at ends
  · cases ends
  · next behind =>
    cases ends
    exact exists_of_skipGap behind
  · cases ends
  · cases ends

theorem nextItem_closing (blank : Blanks gap) (first : Bool) (s : Symbols) :
    nextItem first (gap ++ some ']' :: s) = .ok (false, some ']' :: s) := by
  simp only [nextItem, blank.skip_cons (x := some ']') rfl]

theorem nextItem_value (value : IsValue v) (blank : Blanks gap) (blank' : Blanks gap') (first : Bool)
    (s : Symbols) : nextItem first (gap ++ (comma first ++ (gap' ++ (v ++ s)))) = .ok (true, v ++ s) := by
  obtain ⟨x, w, rfl, noGap, -, noEnd⟩ := value.exists_front
  cases first with
  | true =>
    have behind := (blank.append blank').skip_cons noGap (w ++ s)
    rw [List.append_assoc] at behind
    change nextItem true (gap ++ (gap' ++ x :: (w ++ s))) = _
    unfold nextItem
    split
    · next none => exact absurd (behind.symm.trans none) (List.cons_ne_nil _ _)
    · next closing => exact absurd (List.cons.inj (behind.symm.trans closing)).1 (noEnd .list)
    · next found =>
      rw [← behind.symm.trans found]
      rfl
  | false =>
    have behind := blank'.skip_cons noGap (w ++ s)
    change nextItem false (gap ++ some ',' :: (gap' ++ x :: (w ++ s))) = _
    simp only [nextItem, blank.skip_cons (x := some ',') rfl]
    refine (if_neg Bool.false_ne_true).trans ((if_pos rfl).trans ?_)
    split
    · next none => exact absurd (behind.symm.trans none) (List.cons_ne_nil _ _)
    · next closing => exact absurd (List.cons.inj (behind.symm.trans closing)).1 (noEnd .list)
    · rw [behind]
      rfl

theorem endItems_closing (blank : Blanks gap) (s : Symbols) : endItems (gap ++ some ']' :: s) = .ok s := by
  simp only [endItems, blank.skip_cons (x := some ']') rfl]

/-- Where a value follows, a list does not end. -/
theorem endItems_value (value : IsValue v) (blank : Blanks gap) (blank' : Blanks gap') (first : Bool)
    (s : Symbols) :
    endItems (gap ++ (comma first ++ (gap' ++ (v ++ s)))) = .error .trailingCharacters := by
  obtain ⟨x, w, rfl, noGap, noComma, noEnd⟩ := value.exists_front
  cases first with
  | true =>
    have behind := (blank.append blank').skip_cons noGap (w ++ s)
    rw [List.append_assoc] at behind
    change endItems (gap ++ (gap' ++ x :: (w ++ s))) = _
    unfold endItems
    split
    · next none => exact absurd (behind.symm.trans none) (List.cons_ne_nil _ _)
    · next closing => exact absurd (List.cons.inj (behind.symm.trans closing)).1 (noEnd .list)
    · next goesOn => exact absurd (List.cons.inj (behind.symm.trans goesOn)).1 noComma
    · rfl
  | false =>
    have behind := blank'.skip_cons noGap (w ++ s)
    change endItems (gap ++ some ',' :: (gap' ++ x :: (w ++ s))) = _
    simp only [endItems, blank.skip_cons (x := some ',') rfl, behind, List.head?_cons]
    exact congrArg Except.error (if_neg fun closing => noEnd .list (Option.some.inj closing))

/-! ## Records that are lists -/

/-- What is read as the items of a record is what is left of a list. -/
theorem exists_of_sequence (goes : ∀ f ∈ known, f.read.GoesByValue) {s' : Symbols}
    (read : record.sequence label count known index a s = .ok (b, s')) (ends : endItems s' = .ok rest) :
    ∃ t, s = t ++ rest ∧ Spells (.rest .list (index == 0)) t := by
  induction known generalizing index a s with
  | nil =>
    cases read
    obtain ⟨gap, rfl, blank⟩ := exists_of_endItems ends
    exact ⟨gap ++ [some ']'], by simp, .close .list _ blank⟩
  | cons f known ih =>
    obtain ⟨⟨more, s1⟩, next, behind⟩ := exists_of_bind_eq_ok read
    rcases exists_of_nextItem (eq_ok_of_atValue next) with
      ⟨rfl, gap, t, rfl, rfl, blank⟩ | ⟨rfl, gap, gap', rfl, blank, blank'⟩
    · have stays : s' = some ']' :: t := by
        dsimp only at behind
        split at behind
        · contradiction
        · split at behind
          · cases behind
          · exact (congrArg Prod.snd (Except.ok.inj behind)).symm
      obtain rfl : t = rest := by
        rw [stays] at ends
        exact Except.ok.inj ends
      exact ⟨gap ++ [some ']'], by simp, .close .list _ blank⟩
    · obtain ⟨⟨set, s2⟩, item, later⟩ := exists_of_bind_eq_ok behind
      obtain ⟨gap'', v, rfl, blank'', value⟩ := (goes f List.mem_cons_self).begins (eq_ok_of_inside item)
      obtain ⟨t, rfl, left⟩ := ih (fun f among => goes f (List.mem_cons_of_mem _ among)) later
      exact ⟨gap ++ (comma (index == 0) ++ ((gap' ++ gap'') ++ (v ++ t))), by simp,
        .next blank (.item (blank'.append blank'')) value left⟩

/-- What is left of a list decides which record its items make. -/
theorem settles_sequence (goes : ∀ f ∈ known, f.read.GoesByValue)
    (left : Spells (.rest .list (index == 0)) t) (label : String) (count : Nat) (a : α) :
    Settles (fun s => record.sequence label count known index a s >>= fun found =>
      atValue (endItems found.2) >>= fun rest => .ok (found.1, rest)) t fun _ => True := by
  induction known generalizing index a t with
  | nil =>
    cases left with
    | @close _ _ gap blank =>
      refine ⟨.ok a, fun s _ => ?_⟩
      have ends : endItems (gap ++ ([some Bracket.list.closing] ++ s)) = .ok s := endItems_closing blank s
      simp only [record.sequence, List.append_assoc, Bind.bind, Except.bind, ends]
      rfl
    | @next _ _ gap lead v t blank leads value later =>
      cases leads with
      | item blank' =>
        refine ⟨here .trailingCharacters, fun s _ => ?_⟩
        simp only [record.sequence, List.append_assoc, Bind.bind, Except.bind,
          endItems_value value blank blank']
        rfl
  | cons f known ih =>
    cases left with
    | @close _ _ gap blank =>
      have next (s : Symbols) : nextItem (index == 0) (gap ++ ([some Bracket.list.closing] ++ s)) =
        .ok (false, some ']' :: s) := nextItem_closing blank _ s
      have ends (s : Symbols) : endItems (some ']' :: s) = .ok s := endItems_closing blanks_nil s
      cases missing : (f :: known).findIdx? (·.required) with
      | some ahead =>
        refine ⟨here (.wrongLength (index + ahead) (partsText label count)), fun s _ => ?_⟩
        simp only [record.sequence, List.append_assoc, next, missing]
        rfl
      | none =>
        refine ⟨.ok a, fun s _ => ?_⟩
        simp only [record.sequence, List.append_assoc, next, missing]
        change (atValue (endItems (some ']' :: s)) >>= fun rest => .ok (a, rest)) = _
        rw [ends]
        rfl
    | @next _ _ gap lead v t blank leads value later =>
      cases leads with
      | item blank' =>
        have left : Spells (.rest .list (index + 1 == 0)) t := later
        have item := ((goes f List.mem_cons_self).settles value).inside (.item index)
        refine (item.bind (fun set => ih (fun f among => goes f (List.mem_cons_of_mem _ among)) left (set a))
          fun s _ => later.apart v s).congr (fun _ => id) fun s _ => ?_
        simp only [record.sequence, List.append_assoc, nextItem_value value blank blank']
        change (inside (.item index) (f.read (v ++ (t ++ s))) >>= _) >>= _ =
          inside (.item index) (f.read (v ++ (t ++ s))) >>= _
        cases inside (.item index) (f.read (v ++ (t ++ s))) <;> rfl

/-! ## Fields -/

theorem exists_of_nextKey {key? : Option Symbols} (next : nextKey first s = .ok (key?, rest)) :
    (key? = none ∧ ∃ gap, s = gap ++ some '\x7d' :: rest ∧ Blanks gap) ∨
      ∃ k gap gap', key? = some k ∧ s = gap ++ (comma first ++ (gap' ++ some '"' :: k)) ∧ Blanks gap ∧
        Blanks gap' := by
  unfold nextKey at next
  split at next
  · cases next
  · next behind =>
    cases next
    exact .inl ⟨rfl, exists_of_skipGap behind⟩
  · next x t _ behind =>
    obtain ⟨gap, rfl, blank⟩ := exists_of_skipGap behind
    split at next
    · next isFirst =>
      obtain rfl := isFirst
      split at next
      · next quoted =>
        cases next
        exact .inr ⟨_, gap, [], rfl, congrArg (fun x => gap ++ x :: rest) quoted, blank, blanks_nil⟩
      · cases next
    · next notFirst =>
      obtain rfl : first = false := by simpa using notFirst
      split at next
      · next isComma =>
        obtain rfl := isComma
        split at next
        · cases next
        · next behind' =>
          cases next
          obtain ⟨gap', rfl, blank'⟩ := exists_of_skipGap behind'
          exact .inr ⟨_, gap, gap', rfl, rfl, blank, blank'⟩
        · cases next
        · cases next
      · cases next

theorem nextKey_closing (blank : Blanks gap) (first : Bool) (s : Symbols) :
    nextKey first (gap ++ some '\x7d' :: s) = .ok (none, s) := by
  simp only [nextKey, blank.skip_cons (x := some '\x7d') rfl]

theorem nextKey_quote (blank : Blanks gap) (blank' : Blanks gap') (first : Bool) (s : Symbols) :
    nextKey first (gap ++ (comma first ++ (gap' ++ some '"' :: s))) = .ok (some s, s) := by
  cases first with
  | true =>
    have behind := (blank.append blank').skip_cons (x := some '"') rfl s
    rw [List.append_assoc] at behind
    change nextKey true (gap ++ (gap' ++ some '"' :: s)) = _
    simp only [nextKey, behind]
    rfl
  | false =>
    change nextKey false (gap ++ some ',' :: (gap' ++ some '"' :: s)) = _
    have behind := blank'.skip_cons (x := some '"') rfl s
    simp only [nextKey, blank.skip_cons (x := some ',') rfl]
    refine (if_neg Bool.false_ne_true).trans ((if_pos rfl).trans ?_)
    rw [behind]
    rfl

theorem exists_of_behindColon (colon : behindColon s = .ok rest) :
    ∃ gap, s = gap ++ some ':' :: rest ∧ Blanks gap := by
  unfold behindColon at colon
  split at colon
  · cases colon
  · next behind =>
    cases colon
    exact exists_of_skipGap behind
  · cases colon

theorem behindColon_append (blank : Blanks gap) (s : Symbols) :
    behindColon (gap ++ some ':' :: s) = .ok s := by
  simp only [behindColon, blank.skip_cons (x := some ':') rfl]

/-- What reads the fields of an object takes a colon and one value off behind each key, and goes by them. -/
structure FieldsGoByValue (read : String → σ → Symbols → Except Fault (σ × Symbols)) : Prop where
  begins : ∀ {key state state' s rest}, read key state s = .ok (state', rest) →
    ∃ gap gap' v, s = gap ++ some ':' :: (gap' ++ (v ++ rest)) ∧ Blanks gap ∧ Blanks gap' ∧ IsValue v
  settles : ∀ {gap gap' v} key state, Blanks gap → Blanks gap' → IsValue v →
    Settles (read key state) (gap ++ some ':' :: (gap' ++ v)) (Apart v)

variable {read : String → σ → Symbols → Except Fault (σ × Symbols)} {state state' : σ} {fuel : Nat}

/-- What is read as the fields of an object is what is left of it. -/
theorem FieldsGoByValue.exists_of_fields (goes : FieldsGoByValue read) (enough : s.length < fuel)
    (found : fields read fuel fresh state s = .ok (state', rest)) :
    ∃ t, s = t ++ rest ∧ Spells (.rest .object fresh) t := by
  -- Fuel that runs out would end an object anywhere. It does not, as each field takes symbols off the input.
  induction fuel generalizing fresh state s with
  | zero => exact absurd enough (Nat.not_lt_zero _)
  | succ fuel ih =>
    obtain ⟨⟨key?, s1⟩, next, behind⟩ := exists_of_bind_eq_ok found
    rcases exists_of_nextKey (eq_ok_of_atValue (eq_ok_of_inside next)) with
      ⟨rfl, gap, rfl, blank⟩ | ⟨k, gap, gap', rfl, rfl, blank, blank'⟩
    · cases behind
      exact ⟨gap ++ [some '\x7d'], by simp, .close .object _ blank⟩
    · obtain ⟨⟨key, s2⟩, string, there⟩ := exists_of_bind_eq_ok behind
      obtain ⟨body, rfl, isBody⟩ := exists_of_readString (eq_ok_of_atValue (eq_ok_of_inside string))
      obtain ⟨⟨state1, s3⟩, here, later⟩ := exists_of_bind_eq_ok there
      obtain ⟨gap1, gap2, v, rfl, blank1, blank2, value⟩ := goes.begins here
      simp only [List.length_append, List.length_cons] at enough
      obtain ⟨t, rfl, left⟩ := ih (by omega) later
      let lead := gap' ++ some '"' :: (body ++ (gap1 ++ some ':' :: gap2))
      exact ⟨gap ++ (comma fresh ++ (lead ++ (v ++ t))), by simp [lead],
        .next blank (.field blank' isBody blank1 blank2) value left⟩

/-- Reads one field of an object, behind the quote of its key, into a state. -/
def entry (read : String → σ → Symbols → Except Fault (σ × Symbols)) (state : σ) (s : Symbols) :
    Except Fault (σ × Symbols) :=
  inside .unknown (atValue (readString s)) >>= fun key => read key.1 state key.2

theorem FieldsGoByValue.settles_entry (goes : FieldsGoByValue read) {body : Symbols} (isBody : IsBody body)
    (blank : Blanks gap) (blank' : Blanks gap') (value : IsValue v) (state : σ) :
    Settles (entry read state) (body ++ (gap ++ some ':' :: (gap' ++ v))) (Apart v) :=
  ((settles_readString isBody).atValue.inside .unknown).bind
    (fun key => goes.settles key state blank blank' value) fun _ _ => trivial

theorem fields_entry (blank : Blanks gap) (blank' : Blanks gap') (fuel : Nat) (fresh : Bool) (state : σ)
    (s : Symbols) : fields read (fuel + 1) fresh state (gap ++ (comma fresh ++ (gap' ++ some '"' :: s))) =
      entry read state s >>= fun found => fields read fuel false found.1 found.2 := by
  rw [fields, nextKey_quote blank blank']
  change (inside .unknown (atValue (readString s)) >>= _) =
    (inside .unknown (atValue (readString s)) >>= _) >>= _
  cases inside .unknown (atValue (readString s)) <;> rfl

/-- What is left of an object decides what its fields answer, on whatever fuel is enough. -/
theorem FieldsGoByValue.settles_fields (goes : FieldsGoByValue read) {part : Part} (spells : Spells part t)
    (left : part = .rest .object fresh) (state : σ) : ∃ outcome : Except Fault σ,
      ∀ s fuel, (t ++ s).length < fuel → fields read fuel fresh state (t ++ s) = outcome.map (·, s) := by
  induction spells generalizing fresh state with
  | @close b fresh gap blank =>
    cases left
    refine ⟨.ok state, fun s fuel enough => ?_⟩
    obtain ⟨fuel, rfl⟩ := Nat.exists_eq_succ_of_ne_zero (Nat.ne_zero_of_lt enough)
    have next : nextKey fresh (gap ++ ([some Bracket.object.closing] ++ s)) = .ok (none, s) :=
      nextKey_closing blank fresh s
    rw [List.append_assoc, fields, next]
    rfl
  | @next b fresh gap lead v t blank leads value later _ ih =>
    cases left
    cases leads with
    | @field gap' body gap1 gap2 blank' isBody blank1 blank2 =>
      obtain ⟨answer, atEntry⟩ := goes.settles_entry isBody blank1 blank2 value state
      let lead := gap' ++ some '"' :: (body ++ (gap1 ++ some ':' :: gap2))
      have step (s : Symbols) (fuel : Nat) :
          fields read (fuel + 1) fresh state (gap ++ (comma fresh ++ (lead ++ (v ++ t))) ++ s) =
            answer.map (·, t ++ s) >>= fun found => fields read fuel false found.1 found.2 := by
        rw [← atEntry (t ++ s) (later.apart v s), ← fields_entry blank blank' fuel fresh]
        simp only [lead, List.append_assoc, List.cons_append]
      cases answer with
      | error fault =>
        refine ⟨.error fault, fun s fuel enough => ?_⟩
        obtain ⟨fuel, rfl⟩ := Nat.exists_eq_succ_of_ne_zero (Nat.ne_zero_of_lt enough)
        exact step s fuel
      | ok next =>
        obtain ⟨outcome, whole⟩ := ih rfl next
        refine ⟨outcome, fun s fuel enough => ?_⟩
        obtain ⟨fuel, rfl⟩ := Nat.exists_eq_succ_of_ne_zero (Nat.ne_zero_of_lt enough)
        refine (step s fuel).trans (whole s fuel ?_)
        simp only [List.length_append, List.length_cons] at enough ⊢
        omega
  | _ => cases left

/-! ## Records -/

theorem goesByValue_field (goes : ∀ f ∈ known, f.read.GoesByValue) :
    FieldsGoByValue (record.field known) where
  begins {key state state' s rest} read := by
    unfold record.field at read
    split at read
    · next f found =>
      split at read
      · cases read
      · obtain ⟨s1, colon, behind⟩ := exists_of_bind_eq_ok read
        obtain ⟨⟨set, s2⟩, value, same⟩ := exists_of_bind_eq_ok behind
        cases same
        obtain ⟨gap, rfl, blank⟩ := exists_of_behindColon (eq_ok_of_atValue colon)
        obtain ⟨gap', v, rfl, blank', value⟩ :=
          (goes f (List.mem_of_find?_eq_some found)).begins (eq_ok_of_inside value)
        exact ⟨gap, gap', v, rfl, blank, blank', value⟩
    · obtain ⟨s1, colon, behind⟩ := exists_of_bind_eq_ok read
      obtain ⟨s2, skip, same⟩ := exists_of_bind_eq_ok behind
      cases same
      obtain ⟨gap, rfl, blank⟩ := exists_of_behindColon (eq_ok_of_atValue colon)
      obtain ⟨gap', v, rfl, blank', value⟩ :=
        exists_of_skipValue (eq_ok_of_atValue (eq_ok_of_inside skip))
      exact ⟨gap, gap', v, rfl, blank, blank', value⟩
  settles {gap gap' v} key state blank blank' value := by
    have colon (s : Symbols) : behindColon (gap ++ some ':' :: (gap' ++ v) ++ s) = .ok (gap' ++ v ++ s) := by
      rw [List.append_assoc, List.cons_append, behindColon_append blank]
    cases found : known.find? (·.name == key) with
    | some f =>
      cases again : state.2.contains key with
      | true => exact ⟨here (.duplicateField key), fun s _ => by simp only [record.field, found, again]; rfl⟩
      | false =>
        have answered := (((goes f (List.mem_of_find?_eq_some found)).settles_append blank' value).inside
          (.field key)).judged fun set => .ok (set state.1, key :: state.2)
        refine answered.congr (fun _ => id) fun s _ => ?_
        simp only [record.field, found, again, colon]
        rfl
    | none =>
      refine ⟨.ok state, fun s apart => ?_⟩
      have skip : skipValue (gap' ++ v ++ s) = .ok s := by
        rw [List.append_assoc, skipValue_of_isValue blank' value apart]
      simp only [record.field, found, colon]
      change (inside (.field key) (atValue (skipValue (gap' ++ v ++ s))) >>= fun s => .ok (state, s)) = _
      rw [skip]
      rfl

/-- A record that has been read from an object, if no field is missing that has to be there. -/
def complete (known : List (Field α)) (state : α × List String) : Except Fault α :=
  match known.find? fun f => f.required && !state.2.contains f.name with
  | some f => here (.missingField f.name)
  | none => .ok state.1

/-- A record that is read is a list or an object at the front of the input, with blanks before it. -/
theorem exists_of_record (goes : ∀ f ∈ known, f.read.GoesByValue)
    (read : record label b known s = .ok (a, rest)) :
    ∃ gap v, s = gap ++ (v ++ rest) ∧ Blanks gap ∧ IsValue v ∧ Enclosed v := by
  unfold record at read
  split at read
  · next t behind =>
    obtain ⟨gap, rfl, blank⟩ := exists_of_skipGap behind
    obtain ⟨⟨a', s1⟩, items, ended⟩ := exists_of_bind_eq_ok read
    obtain ⟨s2, ends, same⟩ := exists_of_bind_eq_ok ended
    cases same
    obtain ⟨t, rfl, left⟩ := exists_of_sequence goes items (eq_ok_of_atValue ends)
    exact ⟨gap, some '[' :: t, rfl, blank, .bracket .list left, .list, t, rfl⟩
  · next t behind =>
    obtain ⟨gap, rfl, blank⟩ := exists_of_skipGap behind
    obtain ⟨⟨state, s1⟩, found, complete⟩ := exists_of_bind_eq_ok read
    obtain ⟨t, rfl, left⟩ := (goesByValue_field goes).exists_of_fields (Nat.lt_succ_self _) found
    have same : s1 = rest := by
      dsimp only at complete
      split at complete
      · cases complete
      · exact congrArg Prod.snd (Except.ok.inj complete)
    exact ⟨gap, some '\x7b' :: t, same ▸ rfl, blank, .bracket .object left, .object, t, rfl⟩
  · exact absurd read unwanted_ne_ok

theorem record_of_ne (list : ∀ t, skipGap s ≠ some '[' :: t) (object : ∀ t, skipGap s ≠ some '\x7b' :: t) :
    record label a known s = unwanted label (skipGap s) := by
  unfold record
  split
  · next t same => exact absurd same (list t)
  · next t same => exact absurd same (object t)
  · rfl

theorem goesByValue_record (goes : ∀ f ∈ known, f.read.GoesByValue) (label : String) (a : α) :
    (record label a known).GoesByValue where
  skips blank s := by rw [record, blank.skip, record]
  begins read := by
    obtain ⟨gap, v, split, blank, value, -⟩ := exists_of_record goes read
    exact ⟨gap, v, split, blank, value⟩
  settles {v} value := by
    by_cases list : ∃ w, v = some '[' :: w
    · obtain ⟨w, rfl⟩ := list
      have left : Spells (.rest .list (0 == 0)) w := value.follows
      refine (settles_sequence goes left label known.length a).congr (fun _ _ => trivial) fun s _ => ?_
      rw [record, value.skip]
      rfl
    by_cases object : ∃ w, v = some '\x7b' :: w
    · obtain ⟨w, rfl⟩ := object
      obtain ⟨outcome, whole⟩ := (goesByValue_field goes).settles_fields value.follows rfl (a, [])
      have settled : Settles (fun s => fields (record.field known) (s.length + 1) true (a, []) s) w
        fun _ => True := ⟨outcome, fun s _ => whole s _ (Nat.lt_succ_self _)⟩
      refine (settled.judged (complete known)).congr (fun _ _ => trivial) fun s _ => ?_
      rw [record, value.skip]
      change (fields (record.field known) ((w ++ s).length + 1) true (a, []) (w ++ s) >>= _) =
        fields (record.field known) ((w ++ s).length + 1) true (a, []) (w ++ s) >>= _
      cases fields (record.field known) ((w ++ s).length + 1) true (a, []) (w ++ s) with
      | error => rfl
      | ok found =>
        cases missing : known.find? fun f => f.required && !found.1.2.contains f.name with
        | some => simp only [complete, Bind.bind, Except.bind, missing, here]
        | none => simp only [complete, Bind.bind, Except.bind, missing]
    · refine settles_of_unwanted label value fun s => ?_
      rw [record_of_ne (value.skip_ne list s) (value.skip_ne object s), value.skip]

theorem GoesByValue.optional {r : Reader β} (goes : r.GoesByValue) (name : String) (set : β → α → α) :
    (optional name r set).read.GoesByValue :=
  goes.map set

theorem GoesByValue.required {r : Reader β} (goes : r.GoesByValue) (name : String) (set : β → α → α) :
    (required name r set).read.GoesByValue :=
  goes.map set

end TokenSteward.Json.Reader
