import TokenSteward.Text.Base64

/-! # Base64 loses nothing

Each alphabet in use has sixty-four different symbols and fills up with none of them. So what was
written in it is read back, whatever the bytes are; and nothing else is read than what was written.
-/

namespace TokenSteward.Text.Base64

/-- Each symbol tells its value, and none of them fills up. -/
structure Alphabet.Readable (a : Alphabet) : Prop where
  value : ∀ n < 64, a.value? (a.symbol n) = some n
  apart : ∀ n < 64, a.symbol n ≠ '='

theorem readable_urlSafe : urlSafe.Readable :=
  ⟨by decide, by decide⟩

variable {a : Alphabet}

theorem one?_symbols (readable : a.Readable) (x : UInt8) :
    one? a (a.symbol (x.toNat / 4)) (a.symbol (x.toNat % 4 * 16)) = some [x] := by
  have small := x.toNat_lt
  have first := readable.value (x.toNat / 4) (by omega)
  have second := readable.value (x.toNat % 4 * 16) (by omega)
  have clear : (x.toNat / 4 * 64 + x.toNat % 4 * 16) % 16 = 0 := by omega
  have whole : (x.toNat / 4 * 64 + x.toNat % 4 * 16) / 16 = x.toNat := by omega
  simp only [one?, first, second, Option.bind_eq_bind, Option.bind_some, clear, if_true, whole,
    UInt8.ofNat_toNat]

theorem two?_symbols (readable : a.Readable) (x y : UInt8) {n : Nat}
    (both : n = x.toNat * 256 + y.toNat) :
    two? a (a.symbol (n / 1024)) (a.symbol (n / 16 % 64)) (a.symbol (n % 16 * 4)) = some [x, y] := by
  have small := x.toNat_lt
  have small' := y.toNat_lt
  have first := readable.value (n / 1024) (by omega)
  have second := readable.value (n / 16 % 64) (by omega)
  have third := readable.value (n % 16 * 4) (by omega)
  have clear : ((n / 1024 * 64 + n / 16 % 64) * 64 + n % 16 * 4) % 4 = 0 := by omega
  have high : ((n / 1024 * 64 + n / 16 % 64) * 64 + n % 16 * 4) / 1024 = x.toNat := by omega
  have low : ((n / 1024 * 64 + n / 16 % 64) * 64 + n % 16 * 4) / 4 % 256 = y.toNat := by omega
  simp only [two?, first, second, third, Option.bind_eq_bind, Option.bind_some, clear, if_true, high,
    low, UInt8.ofNat_toNat]

theorem three?_symbols (readable : a.Readable) (x y z : UInt8) {n : Nat}
    (all : n = (x.toNat * 256 + y.toNat) * 256 + z.toNat) :
    three? a (a.symbol (n / 262144)) (a.symbol (n / 4096 % 64)) (a.symbol (n / 64 % 64))
      (a.symbol (n % 64)) = some [x, y, z] := by
  have small := x.toNat_lt
  have small' := y.toNat_lt
  have small'' := z.toNat_lt
  have first := readable.value (n / 262144) (by omega)
  have second := readable.value (n / 4096 % 64) (by omega)
  have third := readable.value (n / 64 % 64) (by omega)
  have fourth := readable.value (n % 64) (by omega)
  have whole : ((n / 262144 * 64 + n / 4096 % 64) * 64 + n / 64 % 64) * 64 + n % 64 = n := by omega
  have high : n / 65536 = x.toNat := by omega
  have middle : n / 256 % 256 = y.toNat := by omega
  have low : n % 256 = z.toNat := by omega
  simp only [three?, first, second, third, fourth, Option.bind_eq_bind, Option.bind_some, whole, high,
    middle, low, UInt8.ofNat_toNat]

/-- What was written in an alphabet is read back. -/
theorem decode_encode (readable : a.Readable) (bytes : List UInt8) :
    decode a (encode a bytes) = some bytes := by
  induction bytes using encode.induct with
  | case1 => rfl
  | case2 x =>
    have read := one?_symbols readable x
    simp only [encode, Alphabet.filling]
    cases padded : a.padded with
    | false => simpa [decode, padded] using read
    | true => simpa [decode, padded] using read
  | case3 x y =>
    have read := two?_symbols readable x y rfl
    have apart := readable.apart ((x.toNat * 256 + y.toNat) % 16 * 4) (by omega)
    simp only [encode, Alphabet.filling]
    cases padded : a.padded with
    | false => simpa [decode, padded] using read
    | true => simpa [decode, padded, apart] using read
  | case4 x y z rest ih =>
    have read := three?_symbols readable x y z rfl
    have apart := readable.apart (((x.toNat * 256 + y.toNat) * 256 + z.toNat) % 64) (by omega)
    simp only [encode, decode]
    rw [if_neg fun filled => apart filled.2.1, read, ih]
    rfl

/-- A text in an alphabet without filling is made of its symbols. -/
theorem mem_encode (unpadded : a.padded = false) {bytes : List UInt8} {c : Char}
    (among : c ∈ encode a bytes) : ∃ n < 64, c = a.symbol n := by
  induction bytes using encode.induct with
  | case1 => simp [encode] at among
  | case2 x =>
    have small := x.toNat_lt
    simp only [encode, Alphabet.filling, unpadded, List.mem_cons, Bool.false_eq_true, if_false,
      List.not_mem_nil, or_false] at among
    rcases among with rfl | rfl
    · exact ⟨_, by omega, rfl⟩
    · exact ⟨_, by omega, rfl⟩
  | case3 x y =>
    have small := x.toNat_lt
    have small' := y.toNat_lt
    simp only [encode, Alphabet.filling, unpadded, List.mem_cons, Bool.false_eq_true, if_false,
      List.not_mem_nil, or_false] at among
    rcases among with rfl | rfl | rfl
    · exact ⟨_, by omega, rfl⟩
    · exact ⟨_, by omega, rfl⟩
    · exact ⟨_, by omega, rfl⟩
  | case4 x y z rest ih =>
    have small := x.toNat_lt
    have small' := y.toNat_lt
    have small'' := z.toNat_lt
    simp only [encode, List.mem_cons] at among
    rcases among with rfl | rfl | rfl | rfl | later
    · exact ⟨_, by omega, rfl⟩
    · exact ⟨_, by omega, rfl⟩
    · exact ⟨_, by omega, rfl⟩
    · exact ⟨_, by omega, rfl⟩
    · exact ih later

/-- What is no symbol of an alphabet without filling stands in no text in it. -/
theorem not_mem_encode (unpadded : a.padded = false) {c : Char} (foreign : ∀ n < 64, c ≠ a.symbol n)
    (bytes : List UInt8) : c ∉ encode a bytes := by
  intro among
  obtain ⟨n, small, same⟩ := mem_encode unpadded among
  exact foreign n small same

/-- No point stands in a text in the alphabet for URLs. -/
theorem point_not_mem_encode (bytes : List UInt8) : '.' ∉ encode urlSafe bytes :=
  not_mem_encode rfl (by decide) bytes

/-- No slash stands in a text in the alphabet for URLs. -/
theorem slash_not_mem_encode (bytes : List UInt8) : '/' ∉ encode urlSafe bytes :=
  not_mem_encode rfl (by decide) bytes

/-! ## Only written form is read -/

/-- A symbol that has a value is the symbol of that value. -/
theorem symbol_of_value? {c : Char} {n : Nat} (worth : a.value? c = some n) :
    n < 64 ∧ a.symbol n = c := by
  have between {l u : Char} (within : l ≤ c ∧ c ≤ u) : l.toNat ≤ c.toNat ∧ c.toNat ≤ u.toNat :=
    ⟨Char.le_def.mp within.1, Char.le_def.mp within.2⟩
  have named {m : Nat} (same : m = c.toNat) : Char.ofNat m = c := by rw [same, Char.ofNat_toNat]
  simp only [Alphabet.value?] at worth
  split at worth
  · next upper =>
    obtain ⟨low, high⟩ : 65 ≤ c.toNat ∧ c.toNat ≤ 90 := between upper
    obtain rfl := Option.some.inj worth
    refine ⟨by omega, ?_⟩
    rw [Alphabet.symbol, if_pos (by omega)]
    exact named (by omega)
  · split at worth
    · next lower =>
      obtain ⟨low, high⟩ : 97 ≤ c.toNat ∧ c.toNat ≤ 122 := between lower
      obtain rfl := Option.some.inj worth
      refine ⟨by omega, ?_⟩
      rw [Alphabet.symbol, if_neg (by omega), if_pos (by omega)]
      exact named (by omega)
    · split at worth
      · next digit =>
        obtain ⟨low, high⟩ : 48 ≤ c.toNat ∧ c.toNat ≤ 57 := between digit
        obtain rfl := Option.some.inj worth
        refine ⟨by omega, ?_⟩
        rw [Alphabet.symbol, if_neg (by omega), if_neg (by omega), if_pos (by omega)]
        exact named (by omega)
      · split at worth
        · next last =>
          obtain rfl := Option.some.inj worth
          exact ⟨by omega, last.symm⟩
        · split at worth
          · next last =>
            obtain rfl := Option.some.inj worth
            exact ⟨by omega, last.symm⟩
          · contradiction

theorem eq_symbols_of_one? {w x : Char} {bytes : List UInt8} (read : one? a w x = some bytes) :
    ∃ b : UInt8, bytes = [b] ∧ w = a.symbol (b.toNat / 4) ∧ x = a.symbol (b.toNat % 4 * 16) := by
  simp only [one?, Option.bind_eq_bind, Option.bind_eq_some_iff] at read
  obtain ⟨m, first, n, second, read⟩ := read
  obtain ⟨small, rfl⟩ := symbol_of_value? first
  obtain ⟨small₂, rfl⟩ := symbol_of_value? second
  split at read
  · next clear =>
    obtain rfl := Option.some.inj read
    have byte : (UInt8.ofNat ((m * 64 + n) / 16)).toNat = (m * 64 + n) / 16 :=
      UInt8.toNat_ofNat_of_lt' (show _ < 256 by omega)
    have high : (m * 64 + n) / 16 / 4 = m := by omega
    have low : (m * 64 + n) / 16 % 4 * 16 = n := by omega
    exact ⟨_, rfl, by rw [byte, high], by rw [byte, low]⟩
  · contradiction

theorem eq_symbols_of_two? {w x y : Char} {bytes : List UInt8} (read : two? a w x y = some bytes) :
    ∃ b c : UInt8, bytes = [b, c] ∧ w = a.symbol ((b.toNat * 256 + c.toNat) / 1024) ∧
      x = a.symbol ((b.toNat * 256 + c.toNat) / 16 % 64) ∧
      y = a.symbol ((b.toNat * 256 + c.toNat) % 16 * 4) := by
  simp only [two?, Option.bind_eq_bind, Option.bind_eq_some_iff] at read
  obtain ⟨l, first, m, second, n, third, read⟩ := read
  obtain ⟨small, rfl⟩ := symbol_of_value? first
  obtain ⟨small₂, rfl⟩ := symbol_of_value? second
  obtain ⟨small₃, rfl⟩ := symbol_of_value? third
  generalize sum : (l * 64 + m) * 64 + n = v at read
  split at read
  · next clear =>
    obtain rfl := Option.some.inj read
    have byte : (UInt8.ofNat (v / 1024)).toNat = v / 1024 :=
      UInt8.toNat_ofNat_of_lt' (show _ < 256 by omega)
    have byte₂ : (UInt8.ofNat (v / 4 % 256)).toNat = v / 4 % 256 :=
      UInt8.toNat_ofNat_of_lt' (show _ < 256 by omega)
    have both : v / 1024 * 256 + v / 4 % 256 = v / 4 := by omega
    have high : v / 4 / 1024 = l := by omega
    have middle : v / 4 / 16 % 64 = m := by omega
    have low : v / 4 % 16 * 4 = n := by omega
    refine ⟨_, _, rfl, ?_⟩
    rw [byte, byte₂, both, high, middle, low]
    exact ⟨rfl, rfl, rfl⟩
  · contradiction

theorem eq_symbols_of_three? {w x y z : Char} {bytes : List UInt8}
    (read : three? a w x y z = some bytes) : ∃ b c d : UInt8, bytes = [b, c, d] ∧
      w = a.symbol (((b.toNat * 256 + c.toNat) * 256 + d.toNat) / 262144) ∧
      x = a.symbol (((b.toNat * 256 + c.toNat) * 256 + d.toNat) / 4096 % 64) ∧
      y = a.symbol (((b.toNat * 256 + c.toNat) * 256 + d.toNat) / 64 % 64) ∧
      z = a.symbol (((b.toNat * 256 + c.toNat) * 256 + d.toNat) % 64) := by
  simp only [three?, Option.bind_eq_bind, Option.bind_eq_some_iff] at read
  obtain ⟨k, first, l, second, m, third, n, fourth, read⟩ := read
  obtain ⟨small, rfl⟩ := symbol_of_value? first
  obtain ⟨small₂, rfl⟩ := symbol_of_value? second
  obtain ⟨small₃, rfl⟩ := symbol_of_value? third
  obtain ⟨small₄, rfl⟩ := symbol_of_value? fourth
  generalize sum : ((k * 64 + l) * 64 + m) * 64 + n = v at read
  obtain rfl := Option.some.inj read
  have byte : (UInt8.ofNat (v / 65536)).toNat = v / 65536 :=
    UInt8.toNat_ofNat_of_lt' (show _ < 256 by omega)
  have byte₂ : (UInt8.ofNat (v / 256 % 256)).toNat = v / 256 % 256 :=
    UInt8.toNat_ofNat_of_lt' (show _ < 256 by omega)
  have byte₃ : (UInt8.ofNat (v % 256)).toNat = v % 256 :=
    UInt8.toNat_ofNat_of_lt' (show _ < 256 by omega)
  have all : (v / 65536 * 256 + v / 256 % 256) * 256 + v % 256 = v := by omega
  have high : v / 262144 = k := by omega
  have upper : v / 4096 % 64 = l := by omega
  have lower : v / 64 % 64 = m := by omega
  have low : v % 64 = n := by omega
  refine ⟨_, _, _, rfl, ?_⟩
  rw [byte, byte₂, byte₃, all, high, upper, lower, low]
  exact ⟨rfl, rfl, rfl, rfl⟩

/-- Only written form is read: a text that tells bytes is the written form of these. -/
theorem eq_encode_of_decode {text : List Char} {bytes : List UInt8}
    (read : decode a text = some bytes) : text = encode a bytes := by
  induction text using decode.induct (a := a) generalizing bytes with
  | case1 =>
    obtain rfl := Option.some.inj read
    rfl
  | case2 => contradiction
  | case3 w x padded => simp [decode, padded] at read
  | case4 w x padded =>
    simp only [decode, padded] at read
    obtain ⟨b, rfl, rfl, rfl⟩ := eq_symbols_of_one? read
    simp [encode, Alphabet.filling, padded]
  | case5 w x y padded => simp [decode, padded] at read
  | case6 w x y padded =>
    simp only [decode, padded] at read
    obtain ⟨b, c, rfl, rfl, rfl, rfl⟩ := eq_symbols_of_two? read
    simp [encode, Alphabet.filling, padded]
  | case7 w x z rest filled =>
    obtain ⟨padded, rfl, rfl⟩ := filled
    simp only [decode, padded, and_self, if_true] at read
    obtain ⟨b, rfl, rfl, rfl⟩ := eq_symbols_of_one? read
    simp [encode, Alphabet.filling, padded]
  | case8 w x y z rest filled other =>
    obtain ⟨padded, rfl, rfl⟩ := filled
    simp only [decode, padded, and_self, if_true, other, if_false] at read
    obtain ⟨b, c, rfl, rfl, rfl, rfl⟩ := eq_symbols_of_two? read
    simp [encode, Alphabet.filling, padded]
  | case9 w x y z rest unfilled ih =>
    rw [decode, if_neg unfilled] at read
    simp only [Option.bind_eq_bind, Option.bind_eq_some_iff] at read
    obtain ⟨group, whole, more, later, read⟩ := read
    obtain rfl := Option.some.inj read
    obtain ⟨b, c, d, rfl, rfl, rfl, rfl, rfl⟩ := eq_symbols_of_three? whole
    rw [ih later]
    rfl

end TokenSteward.Text.Base64
