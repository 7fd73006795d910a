import TokenSteward.Proofs.Bind
import TokenSteward.Proofs.Grammar.Basic

/-! # Numbers of the grammar

Reading and skipping a number take one off the front of the input. In front of such a text both answer by it
alone where what follows it cannot go on with a number: no digit, no point and no mark of an exponent.
-/

namespace TokenSteward.Json

open TokenSteward.Number

variable {s rest : Symbols} {n : Nat} {c : Char} {cs ds : List Char} {negative down : Bool}
  {significand : Nat} {e : Int} {m : Numeral}

/-! ## Digits -/

theorem frontDigit?_of_cuts (apart : cuts s = true) : frontDigit? s = none := by
  cases s with
  | nil => rfl
  | cons x s =>
    cases x with
    | none => rfl
    | some c =>
      cases digit : isDigit c with
      | true => simp [cuts, digit] at apart
      | false => simp [frontDigit?, digit]

theorem exists_of_spanDigits {ns : List Nat} (span : spanDigits s = (ns, rest)) :
    ∃ ds : List Char, s = ds.map some ++ rest ∧ ns = ds.map digitValue ∧ ∀ c ∈ ds, isDigit c = true := by
  induction s generalizing ns with
  | nil =>
    cases span
    exact ⟨[], rfl, rfl, fun _ among => nomatch among⟩
  | cons x s ih =>
    rw [spanDigits] at span
    split at span
    · next d front =>
      obtain ⟨c, rfl, digit, rfl⟩ : ∃ c, x = some c ∧ isDigit c = true ∧ d = digitValue c := by
        cases x with
        | none => cases front
        | some c =>
          simp only [frontDigit?] at front
          split at front
          · next digit => exact ⟨c, rfl, digit, (Option.some.inj front).symm⟩
          · cases front
      cases later : spanDigits s with
      | mk ns' rest' =>
        rw [later] at span
        cases span
        obtain ⟨ds, rfl, rfl, all⟩ := ih later
        exact ⟨c :: ds, rfl, rfl, List.forall_mem_cons.mpr ⟨digit, all⟩⟩
    · cases span
      exact ⟨[], rfl, rfl, fun _ among => nomatch among⟩

theorem IsDigits.span (digits : IsDigits ds) (apart : frontDigit? s = none) :
    spanDigits (ds.map some ++ s) = (ds.map digitValue, s) :=
  spanDigits_append digits.2 apart

/-- Digits that were taken off an input, at least one. -/
theorem exists_digits {ns : List Nat} (span : spanDigits s = (ns, rest)) (found : ns ≠ []) :
    ∃ ds : List Char, s = ds.map some ++ rest ∧ ns = ds.map digitValue ∧ IsDigits ds := by
  obtain ⟨ds, split, rfl, all⟩ := exists_of_spanDigits span
  exact ⟨ds, split, rfl, mt (congrArg (List.map digitValue)) found, all⟩

/-! ## Reading a number -/

/-- Reads the digits of an exponent, which goes down or up. -/
def readPower (negative : Bool) (significand : Nat) (e : Int) (down : Bool) (s : Symbols) :
    Except Cause (Numeral × Symbols) :=
  match spanDigits s with
  | ([], []) => .error (.ended .value)
  | ([], _) => .error .badNumber
  | (ds, rest) => do
    let power := ds.foldl (fun n d => n * 10 + d) 0
    if maxExponent < power then
      if significand ≠ 0 ∧ !down then .error .numberTooLarge
      else .ok (.double negative ⟨0, Binary64.leastExponent⟩, rest)
    else
      let n ← toDouble negative significand (if down then e - power else e + power)
      .ok (n, rest)

theorem readExponent_unsigned (plus : ∀ t, s ≠ some '+' :: t) (minus : ∀ t, s ≠ some '-' :: t) :
    readExponent negative significand e s = readPower negative significand e false s := by
  unfold readExponent
  split
  next down s' same =>
  split at same
  · cases same
    exact absurd rfl (plus _)
  · cases same
    exact absurd rfl (minus _)
  · cases same
    rfl

theorem exists_of_readPower (read : readPower negative significand e down s = .ok (m, rest)) :
    ∃ ds : List Char, s = ds.map some ++ rest ∧ IsDigits ds := by
  unfold readPower at read
  split at read
  · cases read
  · cases read
  · next ns left _ found span =>
    obtain ⟨ds, split, -, digits⟩ := exists_digits span found
    have same : left = rest := by
      dsimp only at read
      split at read
      · split at read
        · cases read
        · exact congrArg Prod.snd (Except.ok.inj read)
      · obtain ⟨_, -, read⟩ := exists_of_bind_eq_ok read
        exact congrArg Prod.snd (Except.ok.inj read)
    exact ⟨ds, same ▸ split, digits⟩

theorem IsDigits.settles_readPower (digits : IsDigits ds) (negative : Bool) (significand : Nat) (e : Int)
    (down : Bool) :
    Settles (readPower negative significand e down) (ds.map some) (cuts · = true) := by
  obtain ⟨d, ds, rfl⟩ := List.exists_cons_of_ne_nil digits.1
  let power := ((d :: ds).map digitValue).foldl (fun n d => n * 10 + d) 0
  have read {s : Symbols} (apart : cuts s = true) :
      readPower negative significand e down ((d :: ds).map some ++ s) =
        if maxExponent < power then
          if significand ≠ 0 ∧ !down then .error .numberTooLarge
          else .ok (.double negative ⟨0, Binary64.leastExponent⟩, s)
        else
          toDouble negative significand (if down then e - power else e + power) >>= fun n => .ok (n, s) := by
    rw [readPower, digits.span (frontDigit?_of_cuts apart)]
    rfl
  by_cases great : maxExponent < power
  · by_cases lost : significand ≠ 0 ∧ !down
    · exact ⟨.error .numberTooLarge, fun s apart => by rw [read apart, if_pos great, if_pos lost]; rfl⟩
    · exact ⟨.ok _, fun s apart => by rw [read apart, if_pos great, if_neg lost]; rfl⟩
  · refine ⟨toDouble negative significand (if down then e - power else e + power), fun s apart => ?_⟩
    rw [read apart, if_neg great]
    cases toDouble negative significand (if down then e - power else e + power) <;> rfl

/-- An exponent is read as the digits behind a sign, if it has one. -/
theorem exists_sign (negative : Bool) (significand : Nat) (e : Int) (s : Symbols) :
    ∃ (sign : List Char) (down : Bool) (t : Symbols), (sign = [] ∨ sign = ['+'] ∨ sign = ['-']) ∧
      s = sign.map some ++ t ∧
      readExponent negative significand e s = readPower negative significand e down t := by
  by_cases plus : ∃ t, s = some '+' :: t
  · obtain ⟨t, rfl⟩ := plus
    exact ⟨['+'], false, t, .inr (.inl rfl), rfl, rfl⟩
  by_cases minus : ∃ t, s = some '-' :: t
  · obtain ⟨t, rfl⟩ := minus
    exact ⟨['-'], true, t, .inr (.inr rfl), rfl, rfl⟩
  exact ⟨[], false, s, .inl rfl, rfl,
    readExponent_unsigned (fun t same => plus ⟨t, same⟩) fun t same => minus ⟨t, same⟩⟩

/-- What is read behind the mark of an exponent is the rest of one. -/
theorem exists_of_readExponent {mark : Char} (marks : mark = 'e' ∨ mark = 'E')
    (read : readExponent negative significand e s = .ok (m, rest)) :
    ∃ cs : List Char, some mark :: s = cs.map some ++ rest ∧ IsExponent cs := by
  obtain ⟨sign, down, t, signed, rfl, same⟩ := exists_sign negative significand e s
  obtain ⟨ds, rfl, digits⟩ := exists_of_readPower (same ▸ read)
  exact ⟨mark :: (sign ++ ds), by simp, .mark marks signed digits⟩

/-- Digits begin with no other symbol. -/
theorem IsDigits.ne_cons (digits : IsDigits ds) (other : isDigit c = false) (s t : Symbols) :
    ds.map some ++ s ≠ some c :: t := by
  obtain ⟨d, ds, rfl⟩ := List.exists_cons_of_ne_nil digits.1
  intro same
  have digit := digits.2 d List.mem_cons_self
  rw [Option.some.inj (List.cons.inj same).1, other] at digit
  cases digit

theorem IsDigits.settles_readExponent {sign : List Char} (digits : IsDigits ds)
    (signed : sign = [] ∨ sign = ['+'] ∨ sign = ['-']) (negative : Bool) (significand : Nat) (e : Int) :
    Settles (readExponent negative significand e) ((sign ++ ds).map some) (cuts · = true) := by
  rcases signed with rfl | rfl | rfl
  · obtain ⟨outcome, read⟩ := digits.settles_readPower negative significand e false
    refine ⟨outcome, fun s apart => ?_⟩
    rw [List.nil_append, ← read s apart]
    exact readExponent_unsigned (digits.ne_cons rfl s) (digits.ne_cons rfl s)
  · exact digits.settles_readPower negative significand e false
  · exact digits.settles_readPower negative significand e true

/-- Where no exponent stands, none is read. -/
theorem readTail_of_ne (lower : ∀ t, s ≠ some 'e' :: t) (upper : ∀ t, s ≠ some 'E' :: t) :
    readTail negative significand e s = toDouble negative significand e >>= fun n => .ok (n, s) := by
  unfold readTail
  split
  · exact absurd rfl (lower _)
  · exact absurd rfl (upper _)
  · rfl

theorem exists_of_readTail (read : readTail negative significand e s = .ok (m, rest)) :
    ∃ cs : List Char, s = cs.map some ++ rest ∧ IsExponent cs := by
  unfold readTail at read
  split at read
  · exact exists_of_readExponent (.inl rfl) read
  · exact exists_of_readExponent (.inr rfl) read
  · obtain ⟨_, -, read⟩ := exists_of_bind_eq_ok read
    cases read
    exact ⟨[], rfl, .none⟩

theorem ne_of_cuts (apart : cuts s = true) (goesOn : isDigit c || c == '.' || c == 'e' || c == 'E')
    (t : Symbols) : s ≠ some c :: t := by
  rintro rfl
  simp [cuts, goesOn] at apart

theorem IsExponent.settles_readTail (exponent : IsExponent cs) (negative : Bool) (significand : Nat)
    (e : Int) :
    Settles (readTail negative significand e) (cs.map some) (cuts · = true) := by
  cases exponent with
  | none =>
    refine ⟨toDouble negative significand e, fun s apart => ?_⟩
    refine (readTail_of_ne (ne_of_cuts apart rfl) (ne_of_cuts apart rfl)).trans ?_
    cases toDouble negative significand e <;> rfl
  | mark marks signed digits =>
    rcases marks with rfl | rfl
    · exact digits.settles_readExponent signed _ _ _
    · exact digits.settles_readExponent signed _ _ _

theorem exists_of_readDecimals (read : readDecimals negative significand e s = .ok (m, rest)) :
    ∃ ds cs : List Char, s = (ds ++ cs).map some ++ rest ∧ IsDigits ds ∧ IsExponent cs := by
  unfold readDecimals at read
  split at read
  · cases read
  · cases read
  · next ns left _ found span =>
    obtain ⟨ds, rfl, -, digits⟩ := exists_digits span found
    obtain ⟨cs, rfl, exponent⟩ := exists_of_readTail read
    exact ⟨ds, cs, by simp, digits, exponent⟩

/-- Behind the whole part or the decimals of a number comes no digit. -/
theorem IsExponent.noDigit (exponent : IsExponent cs) (apart : cuts s = true) :
    frontDigit? (cs.map some ++ s) = Option.none := by
  cases exponent with
  | none => exact frontDigit?_of_cuts apart
  | mark marks => rcases marks with rfl | rfl <;> rfl

theorem IsExponent.settles_readDecimals (exponent : IsExponent cs) (digits : IsDigits ds) (negative : Bool)
    (significand : Nat) (e : Int) :
    Settles (readDecimals negative significand e) ((ds ++ cs).map some) (cuts · = true) := by
  obtain ⟨d, ds, rfl⟩ := List.exists_cons_of_ne_nil digits.1
  let taken := gather significand ((d :: ds).map digitValue)
  obtain ⟨outcome, read⟩ := exponent.settles_readTail negative taken.1
    (e - (((d :: ds).map digitValue).length - taken.2.length : Nat))
  refine ⟨outcome, fun s apart => ?_⟩
  rw [readDecimals, List.map_append, List.append_assoc, digits.span (exponent.noDigit apart)]
  exact read s apart

/-- A whole part that was taken off an input: a zero at its front is all of it. -/
theorem exists_whole {ns : List Nat} (span : spanDigits s = (ns, rest)) (found : ns ≠ [])
    (alone : ∀ n ns', ns ≠ 0 :: n :: ns') :
    ∃ ds : List Char, s = ds.map some ++ rest ∧ IsDigits ds ∧ ∀ ds', ds = '0' :: ds' → ds' = [] := by
  obtain ⟨ds, split, rfl, digits⟩ := exists_digits span found
  refine ⟨ds, split, digits, ?_⟩
  rintro (_ | ⟨d, ds'⟩) rfl
  · rfl
  · exact absurd rfl (alone (digitValue d) (ds'.map digitValue))

/-- Reads what follows the whole part of a number, of which a significand and digits left over were
taken. -/
def readFraction (negative : Bool) (n : Nat) (left : List Nat) :
    Symbols → Except Cause (Numeral × Symbols)
  | some '.' :: s => readDecimals negative n left.length s
  | some 'e' :: s | some 'E' :: s => readExponent negative n left.length s
  | s =>
    if left.isEmpty ∧ !negative then .ok (.whole n, s)
    else if left.isEmpty ∧ 0 < n ∧ n ≤ Nat.pow 2 63 then .ok (.whole (-(n : Int)), s)
    else do .ok (← toDouble negative n left.length, s)

theorem exists_of_readFraction {left : List Nat} (read : readFraction negative n left s = .ok (m, rest)) :
    ∃ ds cs : List Char, s = (ds ++ cs).map some ++ rest ∧ IsDecimals ds ∧ IsExponent cs := by
  unfold readFraction at read
  split at read
  · obtain ⟨fs, cs, rfl, fraction, exponent⟩ := exists_of_readDecimals read
    exact ⟨'.' :: fs, cs, rfl, .point fraction, exponent⟩
  · obtain ⟨cs, split, exponent⟩ := exists_of_readExponent (.inl rfl) read
    exact ⟨[], cs, split, .none, exponent⟩
  · obtain ⟨cs, split, exponent⟩ := exists_of_readExponent (.inr rfl) read
    exact ⟨[], cs, split, .none, exponent⟩
  · refine ⟨[], [], ?_, .none, .none⟩
    split at read
    · cases read; rfl
    · split at read
      · cases read; rfl
      · obtain ⟨_, -, read⟩ := exists_of_bind_eq_ok read
        cases read; rfl

theorem settles_readFraction (decimals : IsDecimals ds) (exponent : IsExponent cs) (negative : Bool) (n : Nat)
    (left : List Nat) :
    Settles (readFraction negative n left) ((ds ++ cs).map some) (cuts · = true) := by
  cases decimals with
  | point digits => exact exponent.settles_readDecimals digits _ _ _
  | none =>
    cases exponent with
    | mark marks signed digits =>
      rcases marks with rfl | rfl
      · exact digits.settles_readExponent signed _ _ _
      · exact digits.settles_readExponent signed _ _ _
    | none =>
      have plain {s : Symbols} (apart : cuts s = true) : readFraction negative n left s =
          if left.isEmpty ∧ !negative then .ok (.whole n, s)
          else if left.isEmpty ∧ 0 < n ∧ n ≤ Nat.pow 2 63 then .ok (.whole (-(n : Int)), s)
          else toDouble negative n left.length >>= fun m => .ok (m, s) := by
        unfold readFraction
        split
        · exact absurd rfl (ne_of_cuts apart rfl _)
        · exact absurd rfl (ne_of_cuts apart rfl _)
        · exact absurd rfl (ne_of_cuts apart rfl _)
        · rfl
      by_cases whole : left.isEmpty ∧ !negative
      · exact ⟨.ok (.whole n), fun s apart => (plain apart).trans (if_pos whole)⟩
      by_cases below : left.isEmpty ∧ 0 < n ∧ n ≤ Nat.pow 2 63
      · exact ⟨.ok (.whole (-(n : Int))), fun s apart =>
          (plain apart).trans ((if_neg whole).trans (if_pos below))⟩
      · refine ⟨toDouble negative n left.length, fun s apart =>
          (plain apart).trans ((if_neg whole).trans ((if_neg below).trans ?_))⟩
        cases toDouble negative n left.length <;> rfl

theorem exists_of_readUnsigned (read : readUnsigned negative s = .ok (m, rest)) :
    ∃ cs : List Char, s = cs.map some ++ rest ∧ IsUnsigned cs := by
  unfold readUnsigned at read
  split at read
  · cases read
  · cases read
  · cases read
  · next ns left _ found alone span =>
    obtain ⟨whole, rfl, digits, first⟩ := exists_whole span found alone
    have fraction : readFraction negative (gather 0 ns).1 (gather 0 ns).2 left = .ok (m, rest) := read
    obtain ⟨ds, cs, rfl, decimals, exponent⟩ := exists_of_readFraction fraction
    exact ⟨whole ++ (ds ++ cs), by simp, .mk digits first decimals exponent⟩

theorem eq_zero_of_digitValue {d : Char} (digit : isDigit d = true) (zero : digitValue d = 0) : d = '0' := by
  have least : '0' ≤ d := by simpa using (Bool.and_eq_true_iff.mp digit).1
  have small : '0'.toNat ≤ d.toNat := least
  have value : d.toNat - 48 = 0 := zero
  exact Char.toNat_inj.mp (by change d.toNat = 48; change 48 ≤ d.toNat at small; omega)

/-- The digits of a whole part do not go on behind a zero. -/
theorem IsDigits.not_zero_first (digits : IsDigits ds) (alone : ∀ ds', ds = '0' :: ds' → ds' = [])
    (n : Nat) (ns : List Nat) : ds.map digitValue ≠ 0 :: n :: ns := by
  intro same
  rcases ds with _ | ⟨d, _ | ⟨d', ds⟩⟩
  · cases same
  · exact nomatch (List.cons.inj same).2
  · have zero : digitValue d = 0 := (List.cons.inj same).1
    rw [eq_zero_of_digitValue (digits.2 d List.mem_cons_self) zero] at alone
    cases alone _ rfl

theorem readUnsigned_of_whole (digits : IsDigits ds) (alone : ∀ ds', ds = '0' :: ds' → ds' = [])
    (stops : frontDigit? s = none) :
    readUnsigned negative (ds.map some ++ s) = readFraction negative (gather 0 (ds.map digitValue)).1
      (gather 0 (ds.map digitValue)).2 s := by
  rw [readUnsigned, digits.span stops]
  split
  · next same => exact absurd (List.map_eq_nil_iff.mp (Prod.mk.inj same).1) digits.1
  · next same => exact absurd (List.map_eq_nil_iff.mp (Prod.mk.inj same).1) digits.1
  · next same => exact absurd (Prod.mk.inj same).1 (digits.not_zero_first alone _ _)
  · next same =>
    cases same
    rfl

theorem IsUnsigned.settles_readUnsigned (unsigned : IsUnsigned cs) (negative : Bool) :
    Settles (readUnsigned negative) (cs.map some) (cuts · = true) := by
  obtain @⟨whole, decimals, exponent, digits, alone, isDecimals, isExponent⟩ := unsigned
  obtain ⟨outcome, read⟩ := settles_readFraction isDecimals isExponent negative
    (gather 0 (whole.map digitValue)).1 (gather 0 (whole.map digitValue)).2
  refine ⟨outcome, fun s apart => ?_⟩
  rw [List.map_append, List.append_assoc, readUnsigned_of_whole digits alone, read s apart]
  cases isDecimals with
  | none => exact isExponent.noDigit apart
  | point => rfl

theorem exists_of_readNumber (read : readNumber s = .ok (m, rest)) :
    ∃ cs : List Char, s = cs.map some ++ rest ∧ IsNumber cs := by
  unfold readNumber at read
  split at read
  · obtain ⟨cs, rfl, unsigned⟩ := exists_of_readUnsigned read
    exact ⟨'-' :: cs, rfl, .minus unsigned⟩
  · obtain ⟨cs, rfl, unsigned⟩ := exists_of_readUnsigned read
    exact ⟨cs, rfl, .plain unsigned⟩

theorem readNumber_of_ne (plain : ∀ t, s ≠ some '-' :: t) : readNumber s = readUnsigned false s := by
  unfold readNumber
  split
  · exact absurd rfl (plain _)
  · rfl

/-- A number is read from its text alone, or refused for it, where nothing goes on with it. -/
theorem IsNumber.settles_readNumber (number : IsNumber cs) :
    Settles readNumber (cs.map some) (cuts · = true) := by
  cases number with
  | minus unsigned => exact unsigned.settles_readUnsigned true
  | plain unsigned =>
    obtain ⟨outcome, read⟩ := unsigned.settles_readUnsigned false
    refine ⟨outcome, fun s apart => ?_⟩
    rw [← read s apart]
    obtain ⟨d, ds, rfl, digit⟩ := unsigned.exists_digit
    refine readNumber_of_ne fun t same => ?_
    rw [Option.some.inj (List.cons.inj same).1] at digit
    cases digit

/-! ## Skipping a number -/

/-- Skips digits, one at least. -/
def skipDigits (s : Symbols) : Except Cause Symbols :=
  match spanDigits s with
  | ([], _) => .error .badNumber
  | (_, rest) => .ok rest

theorem exists_of_skipDigits (skip : skipDigits s = .ok rest) :
    ∃ ds : List Char, s = ds.map some ++ rest ∧ IsDigits ds := by
  unfold skipDigits at skip
  split at skip
  · cases skip
  · next found span =>
    cases skip
    obtain ⟨ds, split, -, digits⟩ := exists_digits span found
    exact ⟨ds, split, digits⟩

theorem IsDigits.skip (digits : IsDigits ds) (apart : cuts s = true) :
    skipDigits (ds.map some ++ s) = .ok s := by
  obtain ⟨d, ds, rfl⟩ := List.exists_cons_of_ne_nil digits.1
  rw [skipDigits, digits.span (frontDigit?_of_cuts apart)]
  rfl

theorem skipExponent_unsigned (plus : ∀ t, s ≠ some '+' :: t) (minus : ∀ t, s ≠ some '-' :: t) :
    skipExponent s = skipDigits s := by
  unfold skipExponent
  split
  · exact absurd rfl (plus _)
  · exact absurd rfl (minus _)
  · rfl

theorem exists_skipped_sign (s : Symbols) : ∃ (sign : List Char) (t : Symbols),
    (sign = [] ∨ sign = ['+'] ∨ sign = ['-']) ∧ s = sign.map some ++ t ∧ skipExponent s = skipDigits t := by
  by_cases plus : ∃ t, s = some '+' :: t
  · obtain ⟨t, rfl⟩ := plus
    exact ⟨['+'], t, .inr (.inl rfl), rfl, rfl⟩
  by_cases minus : ∃ t, s = some '-' :: t
  · obtain ⟨t, rfl⟩ := minus
    exact ⟨['-'], t, .inr (.inr rfl), rfl, rfl⟩
  exact ⟨[], s, .inl rfl, rfl,
    skipExponent_unsigned (fun t same => plus ⟨t, same⟩) fun t same => minus ⟨t, same⟩⟩

theorem exists_of_skipExponent {mark : Char} (marks : mark = 'e' ∨ mark = 'E')
    (skip : skipExponent s = .ok rest) :
    ∃ cs : List Char, some mark :: s = cs.map some ++ rest ∧ IsExponent cs := by
  obtain ⟨sign, t, signed, rfl, same⟩ := exists_skipped_sign s
  obtain ⟨ds, rfl, digits⟩ := exists_of_skipDigits (same ▸ skip)
  exact ⟨mark :: (sign ++ ds), by simp, .mark marks signed digits⟩

theorem IsDigits.skipExponent {sign : List Char} (digits : IsDigits ds)
    (signed : sign = [] ∨ sign = ['+'] ∨ sign = ['-']) (apart : cuts s = true) :
    skipExponent ((sign ++ ds).map some ++ s) = .ok s := by
  rcases signed with rfl | rfl | rfl
  · exact (skipExponent_unsigned (digits.ne_cons rfl s) (digits.ne_cons rfl s)).trans (digits.skip apart)
  · exact digits.skip apart
  · exact digits.skip apart

/-- Skips an exponent, if there is one. -/
def skipTail : Symbols → Except Cause Symbols
  | some 'e' :: s | some 'E' :: s => skipExponent s
  | s => .ok s

theorem exists_of_skipTail (skip : skipTail s = .ok rest) :
    ∃ cs : List Char, s = cs.map some ++ rest ∧ IsExponent cs := by
  unfold skipTail at skip
  split at skip
  · exact exists_of_skipExponent (.inl rfl) skip
  · exact exists_of_skipExponent (.inr rfl) skip
  · cases skip
    exact ⟨[], rfl, .none⟩

theorem IsExponent.skipTail (exponent : IsExponent cs) (apart : cuts s = true) :
    skipTail (cs.map some ++ s) = .ok s := by
  cases exponent with
  | none =>
    rw [List.map_nil, List.nil_append, Json.skipTail]
    · exact ne_of_cuts apart rfl
    · exact ne_of_cuts apart rfl
  | mark marks signed digits =>
    rcases marks with rfl | rfl
    · exact digits.skipExponent signed apart
    · exact digits.skipExponent signed apart

/-- Skips what follows the whole part of a number. -/
def skipFraction : Symbols → Except Cause Symbols
  | some '.' :: s =>
    match spanDigits s with
    | ([], _) => .error .badNumber
    | (_, rest) => skipTail rest
  | s => skipTail s

theorem skipFraction_point {ns : List Nat} {t : Symbols} (found : ns ≠ []) (span : spanDigits s = (ns, t)) :
    skipFraction (some '.' :: s) = skipTail t := by
  obtain ⟨n, ns, rfl⟩ := List.exists_cons_of_ne_nil found
  simp only [skipFraction, span]

theorem exists_of_skipFraction (skip : skipFraction s = .ok rest) :
    ∃ ds cs : List Char, s = (ds ++ cs).map some ++ rest ∧ IsDecimals ds ∧ IsExponent cs := by
  unfold skipFraction at skip
  split at skip
  · split at skip
    · cases skip
    · next found span =>
      obtain ⟨ds, rfl, -, digits⟩ := exists_digits span found
      obtain ⟨cs, rfl, exponent⟩ := exists_of_skipTail skip
      exact ⟨'.' :: ds, cs, by simp, .point digits, exponent⟩
  · obtain ⟨cs, rfl, exponent⟩ := exists_of_skipTail skip
    exact ⟨[], cs, rfl, .none, exponent⟩

/-- Decimals and an exponent are skipped where nothing goes on with them. -/
theorem skipFraction_append (decimals : IsDecimals ds) (exponent : IsExponent cs) (apart : cuts s = true) :
    skipFraction (ds.map some ++ (cs.map some ++ s)) = .ok s := by
  cases decimals with
  | @point ds fraction =>
    have found : ds.map digitValue ≠ [] := mt List.map_eq_nil_iff.mp fraction.1
    exact (skipFraction_point found (fraction.span (exponent.noDigit apart))).trans (exponent.skipTail apart)
  | none =>
    rw [← exponent.skipTail apart, List.map_nil, List.nil_append, skipFraction]
    cases exponent with
    | none => exact ne_of_cuts apart rfl
    | mark marks => rcases marks with rfl | rfl <;> simp

/-- Behind a whole part its decimals and its exponent are skipped. -/
theorem skipUnsigned_of_span {ns : List Nat} {t : Symbols} (span : spanDigits s = (ns, t)) (found : ns ≠ [])
    (alone : ∀ n ns', ns ≠ 0 :: n :: ns') : skipUnsigned s = skipFraction t := by
  rw [skipUnsigned, span]
  split
  · next same => exact absurd (Prod.mk.inj same).1 found
  · next same => exact absurd (Prod.mk.inj same).1 (alone _ _)
  · next same =>
    cases same
    split
    · next none => simp only [skipFraction, none]
    · next found span => exact (skipFraction_point found span).symm
    · next found span => exact (skipFraction_point found span).symm
    · next found lower upper span =>
      rw [skipFraction_point found span, skipTail]
      · exact lower
      · exact upper
  · next same =>
    cases same
    rfl
  · next same =>
    cases same
    rfl
  · next dot lower upper same =>
    cases same
    rw [skipFraction, skipTail]
    · exact lower
    · exact upper
    · exact dot

/-- What is skipped as a number without its sign is one. -/
theorem exists_of_skipUnsigned (skip : skipUnsigned s = .ok rest) :
    ∃ cs : List Char, s = cs.map some ++ rest ∧ IsUnsigned cs := by
  cases span : spanDigits s with
  | mk ns t =>
    by_cases none : ns = []
    · rw [skipUnsigned, span, none] at skip
      cases skip
    by_cases padded : ∃ n ns', ns = 0 :: n :: ns'
    · obtain ⟨n, ns', padded⟩ := padded
      rw [skipUnsigned, span, padded] at skip
      cases skip
    have alone (n : Nat) (ns' : List Nat) : ns ≠ 0 :: n :: ns' := fun same => padded ⟨n, ns', same⟩
    rw [skipUnsigned_of_span span none alone] at skip
    obtain ⟨whole, rfl, digits, first⟩ := exists_whole span none alone
    obtain ⟨ds, cs, rfl, decimals, exponent⟩ := exists_of_skipFraction skip
    exact ⟨whole ++ (ds ++ cs), by simp, .mk digits first decimals exponent⟩

/-- A number without its sign is skipped where nothing goes on with it. -/
theorem IsUnsigned.skip (unsigned : IsUnsigned cs) (apart : cuts s = true) :
    skipUnsigned (cs.map some ++ s) = .ok s := by
  obtain @⟨whole, decimals, exponent, digits, alone, isDecimals, isExponent⟩ := unsigned
  have stops : frontDigit? (decimals.map some ++ (exponent.map some ++ s)) = none := by
    cases isDecimals with
    | none => exact isExponent.noDigit apart
    | point => rfl
  rw [List.map_append, List.map_append, List.append_assoc, List.append_assoc,
    skipUnsigned_of_span (digits.span stops) (mt List.map_eq_nil_iff.mp digits.1)
      (digits.not_zero_first alone), skipFraction_append isDecimals isExponent apart]

end TokenSteward.Json
