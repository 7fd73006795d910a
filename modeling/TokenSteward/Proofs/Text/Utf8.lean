import TokenSteward.Text.Utf8

/-! # UTF-8 loses nothing

The lead byte of a written character tells how many tail bytes it is owed, and the payloads of all its
bytes make up its code point. So each character is read back, and with them any text.
-/

namespace TokenSteward.Text.Utf8

theorem toNat_ofNat_of_lt {n : Nat} (small : n < 256) : (UInt8.ofNat n).toNat = n := by
  simp only [UInt8.toNat_ofNat']
  omega

/-! ## Bytes of a character -/

theorem toNat_tail (n : Nat) : (UInt8.ofNat (n % 64 + 128)).toNat = n % 64 + 128 :=
  toNat_ofNat_of_lt (by omega)

theorem isTail_tail (n : Nat) : isTail (UInt8.ofNat (n % 64 + 128)) = true := by
  simp only [isTail, Bool.and_eq_true, decide_eq_true_eq, UInt8.le_iff_toNat_le, UInt8.lt_iff_toNat_lt,
    toNat_tail, UInt8.reduceToNat]
  omega

theorem lead_one {n : Nat} (small : n ≤ 0x7f) : lead (UInt8.ofNat n) = some (0, n, 0) := by
  have byte := toNat_ofNat_of_lt (n := n) (by omega)
  simp only [lead, UInt8.lt_iff_toNat_lt, byte, UInt8.reduceToNat]
  rw [if_pos (by omega)]

theorem lead_two {n : Nat} (large : 0x7f < n) (small : n ≤ 0x7ff) :
    lead (UInt8.ofNat (n / 64 % 32 + 192)) = some (1, n / 64, 0x80) := by
  have byte := toNat_ofNat_of_lt (n := n / 64 % 32 + 192) (by omega)
  simp only [lead, UInt8.lt_iff_toNat_lt, byte, UInt8.reduceToNat]
  rw [if_neg (by omega), if_neg (by omega), if_pos (by omega)]
  rw [show n / 64 % 32 + 192 - 192 = n / 64 by omega]

theorem lead_three {n : Nat} (small : n ≤ 0xffff) :
    lead (UInt8.ofNat (n / 4096 % 16 + 224)) = some (2, n / 4096, 0x800) := by
  have byte := toNat_ofNat_of_lt (n := n / 4096 % 16 + 224) (by omega)
  simp only [lead, UInt8.lt_iff_toNat_lt, byte, UInt8.reduceToNat]
  rw [if_neg (by omega), if_neg (by omega), if_neg (by omega), if_pos (by omega)]
  rw [show n / 4096 % 16 + 224 - 224 = n / 4096 by omega]

theorem lead_four {n : Nat} (small : n < 0x110000) :
    lead (UInt8.ofNat (n / 262144 % 8 + 240)) = some (3, n / 262144, 0x10000) := by
  have byte := toNat_ofNat_of_lt (n := n / 262144 % 8 + 240) (by omega)
  simp only [lead, UInt8.lt_iff_toNat_lt, byte, UInt8.reduceToNat]
  rw [if_neg (by omega), if_neg (by omega), if_neg (by omega), if_neg (by omega), if_pos (by omega)]
  rw [show n / 262144 % 8 + 240 - 240 = n / 262144 by omega]

/-! ## Characters -/

/-- A lead byte with the tail bytes it is owed is read as the character whose code point their payloads
make up. -/
theorem char?_of_lead {b : UInt8} {t : List UInt8} {payload least : Nat} {c : Char}
    (leads : lead b = some (t.length, payload, least)) (tails : t.all isTail = true)
    (enough : least ≤ c.toNat)
    (point : t.foldl (fun n b => n * 64 + (b.toNat - 0x80)) payload = c.toNat)
    (rest : List UInt8) : char? b (t ++ rest) = some (c, t.length) := by
  have valid : c.toNat.isValidChar := c.valid
  simp only [char?, leads, Option.bind_eq_bind, Option.bind_some, List.take_left, tails, and_self,
    if_true, point, enough, valid, Char.ofNat_toNat]

/-- The bytes of a character are read as that character, whatever stands behind them. -/
theorem char?_encodeChar (c : Char) (rest : List UInt8) : ∃ b tail,
    String.utf8EncodeChar c = b :: tail ∧ char? b (tail ++ rest) = some (c, tail.length) := by
  have valid : c.toNat.isValidChar := c.valid
  have limit : c.toNat < 0x110000 := by
    rcases valid with low | high
    · omega
    · exact high.2
  have code : c.val.toNat = c.toNat := rfl
  unfold String.utf8EncodeChar
  change ∃ b tail, (if c.toNat ≤ 0x7f then _ else if c.toNat ≤ 0x7ff then _
    else if c.toNat ≤ 0xffff then _ else _) = b :: tail ∧ _
  split
  · next small =>
    exact ⟨_, [], rfl, char?_of_lead (t := []) (lead_one small) rfl (Nat.zero_le _) rfl rest⟩
  · next large =>
    split
    · next small =>
      refine ⟨_, [_], rfl, char?_of_lead (t := [_]) (lead_two (by omega) small) ?_ (by omega) ?_ rest⟩
      · simp only [List.all_cons, List.all_nil, isTail_tail, Bool.and_true]
      · simp only [List.foldl_cons, List.foldl_nil, toNat_tail, code]
        omega
    · next larger =>
      split
      · next small =>
        refine ⟨_, [_, _], rfl, char?_of_lead (t := [_, _]) (lead_three small) ?_ (by omega) ?_ rest⟩
        · simp only [List.all_cons, List.all_nil, isTail_tail, Bool.and_true]
        · simp only [List.foldl_cons, List.foldl_nil, toNat_tail, code]
          omega
      · next largest =>
        refine ⟨_, [_, _, _], rfl,
          char?_of_lead (t := [_, _, _]) (lead_four limit) ?_ (by omega) ?_ rest⟩
        · simp only [List.all_cons, List.all_nil, isTail_tail, Bool.and_true]
        · simp only [List.foldl_cons, List.foldl_nil, toNat_tail, code]
          omega

/-- A written text is read back. -/
theorem decode_encode (s : List Char) : decode (encode s) = s.map some := by
  induction s with
  | nil => rw [encode, List.flatMap_nil, decode]; rfl
  | cons c s ih =>
    obtain ⟨b, tail, bytes, char⟩ := char?_encodeChar c (encode s)
    have front : encode (c :: s) = b :: (tail ++ encode s) := by
      rw [encode, List.flatMap_cons, bytes]
      rfl
    rw [front, decode, char]
    simp only [List.drop_left, ih, List.map_cons]

end TokenSteward.Text.Utf8
