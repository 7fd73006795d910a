import TokenSteward.Json.Token

/-! # Written whole numbers are read back

The digits of a number have no needless zero in front and are taken as one significand as long as the
number has sixty-four bits. So reading ends behind the last digit, with the number that was written.
-/

namespace TokenSteward.Json

open TokenSteward.Number

/-- What may stand behind a written value: nothing, a comma, or a closing bracket. -/
def endsValue : Symbols → Bool
  | [] | some ',' :: _ | some ']' :: _ | some '\x7d' :: _ => true
  | _ => false

variable {s : Symbols}

theorem frontDigit?_of_endsValue (ends : endsValue s = true) : frontDigit? s = none := by
  unfold endsValue at ends
  split at ends
  · rfl
  · rfl
  · rfl
  · rfl
  · contradiction

/-! ## Digits -/

theorem isDigit_of_mem_digits {n : Nat} {c : Char} (among : c ∈ digits n) : isDigit c = true := by
  induction n using Nat.strongRecOn with
  | _ n ih =>
    rw [digits] at among
    split at among
    · next small =>
      rw [List.mem_singleton.mp among]
      exact isDigit_digitChar small
    · next big =>
      rcases List.mem_append.mp among with high | low
      · exact ih (n / 10) (by omega) high
      · rw [List.mem_singleton.mp low]
        exact isDigit_digitChar (Nat.mod_lt n (by decide))

/-- A number has digits, and only those of zero begin with a zero. -/
theorem digits_eq_cons (n : Nat) :
    ∃ c rest, digits n = c :: rest ∧ (n = 0 ∧ rest = [] ∨ digitValue c ≠ 0) := by
  induction n using Nat.strongRecOn with
  | _ n ih =>
    rw [digits]
    split
    · next small =>
      refine ⟨_, [], rfl, ?_⟩
      rw [digitValue_digitChar small]
      by_cases zero : n = 0
      · exact .inl ⟨zero, rfl⟩
      · exact .inr zero
    · next big =>
      obtain ⟨c, rest, front, zero | nonzero⟩ := ih (n / 10) (by omega)
      · omega
      · exact ⟨c, rest ++ [digitChar (n % 10)], by rw [front]; rfl, .inr nonzero⟩

/-- Digits are taken off the front up to something that is none. -/
theorem spanDigits_append {ds : List Char} (all : ∀ c ∈ ds, isDigit c = true)
    (stops : frontDigit? s = none) : spanDigits (ds.map some ++ s) = (ds.map digitValue, s) := by
  induction ds with
  | nil =>
    cases s with
    | nil => rfl
    | cons x s =>
      change spanDigits (x :: s) = _
      rw [spanDigits, stops]
      rfl
  | cons c ds ih =>
    have front : frontDigit? (some c :: (ds.map some ++ s)) = some (digitValue c) := by
      simp only [frontDigit?, all c List.mem_cons_self, if_true]
    change spanDigits (some c :: (ds.map some ++ s)) = _
    rw [spanDigits, front]
    simp only [ih fun e among => all e (List.mem_cons_of_mem c among), List.map_cons]

theorem le_foldl_digits (ds : List Nat) (n : Nat) : n ≤ ds.foldl (fun n d => n * 10 + d) n := by
  induction ds generalizing n with
  | nil => exact Nat.le_refl n
  | cons d ds ih =>
    have more := ih (n * 10 + d)
    rw [List.foldl_cons]
    omega

/-- A significand takes all digits of a number of sixty-four bits. -/
theorem gather_of_le {ds : List Nat} {n : Nat} (fits : ds.foldl (fun n d => n * 10 + d) n ≤ maxWord) :
    gather n ds = (ds.foldl (fun n d => n * 10 + d) n, []) := by
  induction ds generalizing n with
  | nil => rfl
  | cons d ds ih =>
    have first := le_foldl_digits ds (n * 10 + d)
    rw [List.foldl_cons] at fits
    rw [gather, if_neg (by omega), ih fits, List.foldl_cons]

theorem gather_digits {n : Nat} (fits : n ≤ maxWord) :
    gather 0 ((digits n).map digitValue) = (n, []) := by
  have value : ((digits n).map digitValue).foldl (fun n d => n * 10 + d) 0 = n := by
    rw [List.foldl_map]
    exact ofDigits_digits n
  rw [gather_of_le (by rw [value]; exact fits), value]

/-! ## Numbers -/

/-- Digits with no needless zero in front, all of which one significand takes, make a whole number. -/
theorem readUnsigned_of_span {negative : Bool} {t : Symbols} {v n : Nat} {ds : List Nat}
    (span : spanDigits t = (v :: ds, s)) (lead : v ≠ 0 ∨ ds = []) (gathered : gather 0 (v :: ds) = (n, []))
    (small : negative = true → 0 < n ∧ n ≤ Nat.pow 2 63) (ends : endsValue s = true) :
    readUnsigned negative t = .ok (.whole (if negative then -(n : Int) else n), s) := by
  unfold readUnsigned
  rw [span]
  split
  · next same => cases same
  · next same => cases same
  · next same =>
    cases same
    rcases lead with nonzero | none
    · exact absurd rfl nonzero
    · cases none
  · next same =>
    cases same
    rw [gathered]
    dsimp only
    split
    · cases ends
    · cases ends
    · cases ends
    · cases negative with
      | false => rfl
      | true =>
        have signed : 0 < n ∧ n ≤ Nat.pow 2 63 := small rfl
        rw [if_neg (by simp), if_pos ⟨rfl, signed⟩]
        rfl

/-- The digits of a number are read back. -/
theorem readUnsigned_digits (negative : Bool) {n : Nat} (fits : n ≤ maxWord)
    (small : negative = true → 0 < n ∧ n ≤ Nat.pow 2 63) (ends : endsValue s = true) :
    readUnsigned negative ((digits n).map some ++ s) =
      .ok (.whole (if negative then -(n : Int) else n), s) := by
  have all : ∀ c ∈ digits n, isDigit c = true := fun c => isDigit_of_mem_digits
  have span := spanDigits_append all (frontDigit?_of_endsValue ends)
  have gathered := gather_digits fits
  obtain ⟨c, rest, front, lead⟩ := digits_eq_cons n
  rw [front] at span gathered ⊢
  refine readUnsigned_of_span span ?_ gathered small ends
  rcases lead with ⟨_, rfl⟩ | nonzero
  · exact .inr rfl
  · exact .inl nonzero

/-- A whole number that is written is read back. -/
theorem readNumber_intText {n : Int} (least : Int64.minValue.toInt ≤ n) (greatest : n ≤ maxWord)
    (ends : endsValue s = true) :
    readNumber ((intText n).toList.map some ++ s) = .ok (.whole n, s) := by
  cases n with
  | ofNat n =>
    have fits : n ≤ maxWord := Int.ofNat_le.mp greatest
    have read := readUnsigned_digits false fits (fun none => nomatch none) ends
    have front : (intText (.ofNat n)).toList = digits n := String.toList_ofList
    rw [front]
    unfold readNumber
    split
    · next same =>
      -- a minus sign is no digit
      obtain ⟨c, rest, digits_, _⟩ := digits_eq_cons n
      have digit : isDigit c = true := isDigit_of_mem_digits (digits_ ▸ List.mem_cons_self)
      rw [digits_] at same
      have sign : some c = some '-' := List.head_eq_of_cons_eq same
      rw [Option.some.inj sign] at digit
      exact absurd digit (by decide)
    · exact read
  | negSucc n =>
    have small : n + 1 ≤ Nat.pow 2 63 := by
      rw [Int64.toInt_minValue, Int.negSucc_eq] at least
      change n + 1 ≤ 2 ^ 63
      omega
    have fits : n + 1 ≤ maxWord := Nat.le_trans small (by decide)
    have read := readUnsigned_digits true fits (fun _ => ⟨Nat.succ_pos n, small⟩) ends
    have front : (intText (.negSucc n)).toList = '-' :: digits (n + 1) := by
      simp [intText, natText]
    rw [front]
    exact read

end TokenSteward.Json
