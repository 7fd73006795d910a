/-! # Digits of a natural number

A number is written in decimal digits without leading zeros; reading folds the digits back.
Hexadecimal digits are only read.
-/

namespace TokenSteward.Number

/-- The character of a decimal digit. -/
def digitChar (d : Nat) : Char := Char.ofNat (48 + d)

/-- Whether a character is one of the ten ASCII digits. -/
def isDigit (c : Char) : Bool := '0' ≤ c && c ≤ '9'

/-- The value of an ASCII digit. -/
def digitValue (c : Char) : Nat := c.toNat - 48

/-- The value of a hexadecimal digit. -/
def hexDigit? (c : Char) : Option Nat :=
  if '0' ≤ c ∧ c ≤ '9' then some (c.toNat - 48)
  else if 'a' ≤ c ∧ c ≤ 'f' then some (c.toNat - 87)
  else if 'A' ≤ c ∧ c ≤ 'F' then some (c.toNat - 55)
  else none

/-- The digits of a number, the most significant first. -/
def digits (n : Nat) : List Char :=
  if n < 10 then [digitChar n] else digits (n / 10) ++ [digitChar (n % 10)]
termination_by n
decreasing_by omega

/-- The number that a sequence of digits writes. -/
def ofDigits (ds : List Char) : Nat := ds.foldl (fun n d => n * 10 + digitValue d) 0

theorem digitValue_digitChar {d : Nat} (small : d < 10) : digitValue (digitChar d) = d := by
  have all : ∀ e < 10, digitValue (digitChar e) = e := by decide
  exact all d small

theorem isDigit_digitChar {d : Nat} (small : d < 10) : isDigit (digitChar d) = true := by
  have all : ∀ e < 10, isDigit (digitChar e) = true := by decide
  exact all d small

/-- Reading the digits of a number gives the number. -/
theorem ofDigits_digits (n : Nat) : ofDigits (digits n) = n := by
  induction n using Nat.strongRecOn with
  | _ n ih =>
    rw [digits]
    split
    · next small => simp [ofDigits, digitValue_digitChar small]
    · next big =>
      have high := ih (n / 10) (by omega)
      simp only [ofDigits] at high
      simp only [ofDigits, List.foldl_append, List.foldl_cons, List.foldl_nil, high,
        digitValue_digitChar (Nat.mod_lt n (by decide : 0 < 10))]
      omega

/-- The text of a natural number. -/
def natText (n : Nat) : String := String.ofList (digits n)

theorem natText_injective {n m : Nat} (same : natText n = natText m) : n = m := by
  have digits : digits n = digits m := by
    have lists := congrArg String.toList same
    simpa [natText] using lists
  have read := congrArg ofDigits digits
  rwa [ofDigits_digits, ofDigits_digits] at read

/-- The text of an integer: a minus sign, if it is negative, and its digits. -/
def intText : Int → String
  | .ofNat n => natText n
  | .negSucc n => "-" ++ natText (n + 1)

end TokenSteward.Number
