import TokenSteward.Json.Token

/-! # Written strings are read back

Each character of a string stands in its written form as itself or as an escape that tells it, and no
quote stands there as it is. So reading ends at the closing quote, with the characters that were
written.
-/

namespace TokenSteward.Json

open TokenSteward.Number

variable {s r body rest : Symbols} {c : Char}

/-! ## Escapes -/

theorem readBody_of_readEscape {le : r.length ≤ s.length} (escape : readEscape s = .ok (c, ⟨r, le⟩))
    (read : readBody r = .ok (body, rest)) :
    readBody (some '\\' :: s) = .ok (some c :: body, rest) := by
  rw [readBody]
  simp only [escape, read, Bind.bind, Except.bind]

/-- The digits of a control character tell it. -/
theorem mapM_controlDigits : ∀ n < 0x20,
    ([some '0', some '0'] ++ (controlDigits n).map some).mapM (fun x => x.bind hexDigit?) =
      some [0, 0, n / 16, n % 16] := by
  decide

theorem readHex_control {n : Nat} (small : n < 0x20) (s : Symbols) : ∃ le,
    readHex (some '0' :: some '0' :: ((controlDigits n).map some ++ s)) = .ok (n, ⟨s, le⟩) := by
  obtain ⟨x, y, two⟩ : ∃ x y, controlDigits n = [x, y] := ⟨_, _, rfl⟩
  have digits := mapM_controlDigits n small
  rw [two] at digits ⊢
  have whole : ((0 * 16 + 0) * 16 + n / 16) * 16 + n % 16 = n := by omega
  have four : (some '0' :: some '0' :: ([x, y].map some ++ s)).take 4 =
      [some '0', some '0'] ++ [x, y].map some := rfl
  refine ⟨by simp; omega, ?_⟩
  simp only [readHex, four, digits, whole]
  rfl

theorem readEscape_control (small : c.toNat < 0x20) (s : Symbols) : ∃ le,
    readEscape (some 'u' :: some '0' :: some '0' :: ((controlDigits c.toNat).map some ++ s)) =
      .ok (c, ⟨s, le⟩) := by
  obtain ⟨le, hex⟩ := readHex_control small s
  refine ⟨by simp; omega, ?_⟩
  have low : ¬ (0xDC00 ≤ c.toNat ∧ c.toNat ≤ 0xDFFF) := by omega
  have plain : c.toNat < 0xD800 ∨ 0xDBFF < c.toNat := by omega
  have unicode : readUnicode (some '0' :: some '0' :: ((controlDigits c.toNat).map some ++ s)) =
      .ok (Char.ofNat c.toNat, ⟨s, le⟩) := by
    rw [readUnicode, hex]
    exact (if_neg low).trans (if_pos plain)
  rw [Char.ofNat_toNat] at unicode
  rw [readEscape, unicode]
  rfl

/-! ## Strings -/

/-- A written character is read back. -/
theorem readBody_escaped (c : Char) (read : readBody s = .ok (body, rest)) :
    readBody ((escaped c).map some ++ s) = .ok (some c :: body, rest) := by
  have short {d : Char} (escape : readEscape (some d :: s) = .ok (c, ⟨s, Nat.le_succ _⟩)) :
      readBody ((['\\', d].map some) ++ s) = .ok (some c :: body, rest) :=
    readBody_of_readEscape escape read
  unfold escaped
  split
  · next same => exact short (by rw [same]; rfl)
  split
  · next same => exact short (by rw [same]; rfl)
  split
  · next same => exact short (by rw [same]; rfl)
  split
  · next same => exact short (by rw [same]; rfl)
  split
  · next same => exact short (by rw [same]; rfl)
  split
  · next same => exact short (by rw [same]; rfl)
  split
  · next same => exact short (by rw [same]; rfl)
  split
  · next small =>
    obtain ⟨le, escape⟩ := readEscape_control small s
    exact readBody_of_readEscape escape read
  · next noQuote noBackslash _ _ _ _ _ large =>
    change readBody (some c :: s) = _
    rw [readBody]
    · simp only [large, if_false, read, Bind.bind, Except.bind]
    · exact noQuote
    · exact noBackslash

/-- The characters of a written string are read back. -/
theorem readBody_flatMap (cs : List Char) (s : Symbols) :
    readBody ((cs.flatMap escaped ++ ['"']).map some ++ s) = .ok (cs.map some, s) := by
  induction cs with
  | nil =>
    change readBody (some '"' :: s) = _
    rw [readBody]
    rfl
  | cons c cs ih =>
    have more := readBody_escaped c ih
    rw [← List.append_assoc, ← List.map_append, ← List.append_assoc, ← List.flatMap_cons] at more
    exact more

/-- A written string is read back behind its opening quote. -/
theorem readString_written (text : String) (s : Symbols) :
    readString ((text.toList.flatMap escaped ++ ['"']).map some ++ s) = .ok (text, s) := by
  have body := readBody_flatMap text.toList s
  have all : (text.toList.map some).mapM id = some text.toList := by
    induction text.toList with
    | nil => rfl
    | cons c cs ih => simp [List.mapM_cons, ih]
  simp only [readString, body, all, Bind.bind, Except.bind, String.ofList_toList]

end TokenSteward.Json
