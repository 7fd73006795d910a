import TokenSteward.Proofs.Bind
import TokenSteward.Proofs.Grammar.Basic

/-! # Strings of the grammar

Reading and skipping a string take the inside of one off the front of the input, with its closing quote. In
front of such a text both answer by it alone, whatever follows it. Where a character stands in two escapes,
the second one is read with the first, so what is left of a string behind an escape can begin later than the
next symbol.
-/

namespace TokenSteward.Json

open TokenSteward.Number

variable {s rest body : Symbols} {n : Nat} {c : Char}

theorem isPlain_some_iff : isPlain (some c) = true ↔ (c ≠ '"' ∧ c ≠ '\\') ∧ ¬ c.toNat < 0x20 := by
  simp [isPlain]

/-! ## Escapes -/

/-- What may follow the backslash of an escape: with both before it, the inside of a string stays one. -/
def Escapes (e : Symbols) : Prop := ∀ body, IsBody body → IsBody (some '\\' :: (e ++ body))

theorem exists_of_readHex {r : { r : Symbols // r.length ≤ s.length }} (read : readHex s = .ok (n, r)) :
    ∃ x y z w, s = some x :: some y :: some z :: some w :: r.1 ∧
      ∀ c ∈ [x, y, z, w], (hexDigit? c).isSome = true := by
  unfold readHex at read
  split at read
  · next a b c d digits =>
    obtain ⟨-, rfl⟩ := Prod.mk.inj (Except.ok.inj read)
    have whole := List.take_append_drop 4 s
    have each := forall₂_of_mapM digits
    simp only [List.forall₂_cons_right_iff, List.forall₂_nil_right_iff, Option.bind_eq_some_iff] at each
    obtain ⟨-, -, ⟨x, rfl, first⟩, ⟨-, -, ⟨y, rfl, second⟩, ⟨-, -, ⟨z, rfl, third⟩,
      ⟨-, -, ⟨w, rfl, fourth⟩, rfl, rfl⟩, rfl⟩, rfl⟩, front⟩ := each
    rw [front] at whole
    exact ⟨x, y, z, w, whole.symm, by simp [first, second, third, fourth]⟩
  · cases read

theorem readHex_of_digits {x y z w : Char} (digits : ∀ c ∈ [x, y, z, w], (hexDigit? c).isSome = true) :
    ∃ n, ∀ s, ∃ le, readHex (some x :: some y :: some z :: some w :: s) = .ok (n, ⟨s, le⟩) := by
  have digit {c : Char} (among : c ∈ [x, y, z, w]) : ∃ n, hexDigit? c = some n :=
    Option.isSome_iff_exists.mp (digits c among)
  obtain ⟨a, first⟩ := digit (c := x) (by simp)
  obtain ⟨b, second⟩ := digit (c := y) (by simp)
  obtain ⟨c, third⟩ := digit (c := z) (by simp)
  obtain ⟨d, fourth⟩ := digit (c := w) (by simp)
  refine ⟨((a * 16 + b) * 16 + c) * 16 + d, fun s => ⟨by simp; omega, ?_⟩⟩
  simp [readHex, first, second, third, fourth]

theorem exists_of_readUnicode {r : { r : Symbols // r.length ≤ s.length }}
    (read : readUnicode s = .ok (c, r)) :
    ∃ e, s = e ++ r.1 ∧ Escapes (some 'u' :: e) := by
  unfold readUnicode at read
  obtain ⟨⟨n, s1, le1⟩, hex, read⟩ := exists_of_bind_eq_ok read
  obtain ⟨x, y, z, w, front, digits⟩ := exists_of_readHex hex
  dsimp only at read
  split at read
  · cases read
  · split at read
    · obtain ⟨-, rfl⟩ := Prod.mk.inj (Except.ok.inj read)
      exact ⟨[some x, some y, some z, some w], front, fun _ later => .hex digits later⟩
    · split at read
      · obtain ⟨⟨m, s3, le3⟩, hex', read⟩ := exists_of_bind_eq_ok read
        obtain ⟨x', y', z', w', front', digits'⟩ := exists_of_readHex hex'
        dsimp only at read
        split at read
        · cases read
        · obtain ⟨-, rfl⟩ := Prod.mk.inj (Except.ok.inj read)
          exact ⟨[some x, some y, some z, some w, some '\\', some 'u', some x', some y', some z', some w'],
            front.trans (congrArg ([some x, some y, some z, some w, some '\\', some 'u'] ++ ·) front'),
            fun _ later => .hex digits (.hex digits' later)⟩
      · cases read
      · cases read
      · cases read

theorem exists_of_readEscape {r : { r : Symbols // r.length ≤ s.length }}
    (read : readEscape s = .ok (c, r)) :
    ∃ e, s = e ++ r.1 ∧ Escapes e := by
  unfold readEscape at read
  split at read
  · cases read
  · obtain ⟨⟨d, s1, le1⟩, unicode, read⟩ := exists_of_bind_eq_ok read
    obtain ⟨e, front, builds⟩ := exists_of_readUnicode unicode
    obtain ⟨-, rfl⟩ := Prod.mk.inj (Except.ok.inj read)
    exact ⟨some 'u' :: e, congrArg (some 'u' :: ·) front, builds⟩
  · next d s _ =>
    have single (known : d ∈ ['"', '\\', '/', 'b', 'f', 'n', 'r', 't']) (stays : r.1 = s) :
        ∃ e, some d :: s = e ++ r.1 ∧ Escapes e :=
      ⟨[some d], by rw [stays]; rfl, fun _ later => .escape known later⟩
    dsimp only at read
    split at read <;> cases read <;> exact single (by decide) rfl
  · cases read

theorem exists_of_readBody {t : Symbols} (read : readBody s = .ok (t, rest)) :
    ∃ body, s = body ++ rest ∧ IsBody body := by
  induction s using readBody.induct generalizing t with
  | case1 => rw [readBody] at read; cases read
  | case2 s =>
    rw [readBody] at read
    cases read
    exact ⟨_, rfl, .close⟩
  | case3 s ih =>
    rw [readBody] at read
    obtain ⟨⟨c, r, le⟩, escape, read⟩ := exists_of_bind_eq_ok read
    obtain ⟨⟨t, rest⟩, later, read⟩ := exists_of_bind_eq_ok read
    cases read
    obtain ⟨e, front, builds⟩ := exists_of_readEscape escape
    obtain ⟨body, rfl, isBody⟩ := ih r le later
    refine ⟨some '\\' :: (e ++ body), ?_, builds body isBody⟩
    rw [front, List.cons_append, List.append_assoc]
  | case4 c s noQuote noBackslash low =>
    rw [readBody.eq_4 c s noQuote noBackslash, if_pos low] at read
    cases read
  | case5 c s noQuote noBackslash high ih =>
    rw [readBody.eq_4 c s noQuote noBackslash, if_neg high] at read
    obtain ⟨⟨t, rest⟩, later, read⟩ := exists_of_bind_eq_ok read
    cases read
    obtain ⟨body, rfl, isBody⟩ := ih later
    exact ⟨some c :: body, rfl, .plain (isPlain_some_iff.mpr ⟨⟨noQuote, noBackslash⟩, high⟩) isBody⟩
  | case6 s ih =>
    rw [readBody] at read
    obtain ⟨⟨t, rest⟩, later, read⟩ := exists_of_bind_eq_ok read
    cases read
    obtain ⟨body, rfl, isBody⟩ := ih later
    exact ⟨none :: body, rfl, .plain rfl isBody⟩

/-! ## In front of a string -/

/-- A symbol that stands for itself is read as itself. -/
theorem readBody_plain {x : Option Char} (plain : isPlain x = true) (s : Symbols) :
    readBody (x :: s) = readBody s >>= fun found => .ok (x :: found.1, found.2) := by
  cases x with
  | none => rw [readBody]
  | some c =>
    obtain ⟨⟨noQuote, noBackslash⟩, high⟩ := isPlain_some_iff.mp plain
    rw [readBody.eq_4 c s noQuote noBackslash, if_neg high]

/-- Half a character is refused if no other escape by number follows it. -/
theorem readUnicode_half {t : Symbols} {le : t.length ≤ s.length} (hex : readHex s = .ok (n, ⟨t, le⟩))
    (low : ¬ (0xDC00 ≤ n ∧ n ≤ 0xDFFF)) (half : ¬ (n < 0xD800 ∨ 0xDBFF < n))
    (alone : ∀ u, t ≠ some '\\' :: some 'u' :: u) (goesOn : t ≠ [] ∧ t ≠ [some '\\']) :
    readUnicode s = .error .shortHexEscape := by
  rw [readUnicode, hex]
  refine (if_neg low).trans ((if_neg half).trans ?_)
  dsimp only
  split
  · exact absurd rfl (alone _)
  · exact absurd rfl goesOn.1
  · exact absurd rfl goesOn.2
  · rfl

/-- Half a character and a second escape by number make a character, or the second one is no other half. -/
theorem readUnicode_pair {m : Nat} {t u : Symbols} {le : t.length + 2 ≤ s.length} {le' : u.length ≤ t.length}
    (hex : readHex s = .ok (n, ⟨some '\\' :: some 'u' :: t, le⟩)) (hex' : readHex t = .ok (m, ⟨u, le'⟩))
    (low : ¬ (0xDC00 ≤ n ∧ n ≤ 0xDFFF)) (half : ¬ (n < 0xD800 ∨ 0xDBFF < n)) :
    ∃ le, readUnicode s = if m < 0xDC00 ∨ 0xDFFF < m then .error .loneSurrogate
      else .ok (Char.ofNat ((n - 0xD800) * 0x400 + (m - 0xDC00) + 0x10000), ⟨u, le⟩) := by
  refine ⟨by omega, ?_⟩
  simp only [readUnicode, hex, hex', Bind.bind, Except.bind]
  exact (if_neg low).trans (if_neg half)

/-- A hexadecimal escape is read with a second one behind it or without, or not at all. -/
theorem readUnicode_of_digits {x y z w : Char} (digits : ∀ c ∈ [x, y, z, w], (hexDigit? c).isSome = true)
    (isBody : IsBody body) :
    (∃ cause, ∀ s, readUnicode (some x :: some y :: some z :: some w :: (body ++ s)) = .error cause) ∨
      ∃ c later, IsBody later ∧ later.length ≤ body.length ∧ ∀ s, ∃ le,
        readUnicode (some x :: some y :: some z :: some w :: (body ++ s)) = .ok (c, ⟨later ++ s, le⟩) := by
  obtain ⟨n, hex⟩ := readHex_of_digits digits
  by_cases low : 0xDC00 ≤ n ∧ n ≤ 0xDFFF
  · refine .inl ⟨.loneSurrogate, fun s => ?_⟩
    obtain ⟨le, hex⟩ := hex (body ++ s)
    rw [readUnicode, hex]
    exact if_pos low
  by_cases plain : n < 0xD800 ∨ 0xDBFF < n
  · refine .inr ⟨Char.ofNat n, body, isBody, Nat.le_refl _, fun s => ?_⟩
    obtain ⟨le, hex⟩ := hex (body ++ s)
    refine ⟨le, ?_⟩
    rw [readUnicode, hex]
    exact (if_neg low).trans (if_pos plain)
  -- Half of a character: the other half has to follow as another escape by number.
  cases isBody with
  | close =>
    refine .inl ⟨.shortHexEscape, fun s => ?_⟩
    obtain ⟨le, hex⟩ := hex (some '"' :: s)
    exact readUnicode_half hex low plain (by simp) (by simp)
  | @plain x s ordinary later =>
    refine .inl ⟨.shortHexEscape, fun t => ?_⟩
    obtain ⟨le, hex⟩ := hex (x :: (s ++ t))
    have other : x ≠ some '\\' := by rintro rfl; cases ordinary
    exact readUnicode_half hex low plain (by simp [other]) (by simp [other])
  | @escape c s known later =>
    refine .inl ⟨.shortHexEscape, fun t => ?_⟩
    obtain ⟨le, hex⟩ := hex (some '\\' :: some c :: (s ++ t))
    have other : c ≠ 'u' := by rintro rfl; revert known; decide
    exact readUnicode_half hex low plain (by simp [other]) (by simp)
  | @hex x' y' z' w' later digits' isBody =>
    obtain ⟨m, hex'⟩ := readHex_of_digits digits'
    have pair (s : Symbols) := readUnicode_pair (hex _).2 (hex' (later ++ s)).2 low plain
    by_cases other : m < 0xDC00 ∨ 0xDFFF < m
    · refine .inl ⟨.loneSurrogate, fun s => ?_⟩
      obtain ⟨_, whole⟩ := pair s
      exact whole.trans (if_pos other)
    · refine .inr ⟨Char.ofNat ((n - 0xD800) * 0x400 + (m - 0xDC00) + 0x10000), later, isBody,
        by simp only [List.length_cons]; omega, fun s => ?_⟩
      obtain ⟨le, whole⟩ := pair s
      exact ⟨le, whole.trans (if_neg other)⟩

/-- What follows the backslash of an escape is read up to some later place of the string, or not at all. -/
theorem readEscape_of_body {e : Symbols} (isBody : IsBody (some '\\' :: e)) :
    (∃ cause, ∀ s, readEscape (e ++ s) = .error cause) ∨
      ∃ c later, IsBody later ∧ later.length < e.length ∧ ∀ s, ∃ le,
        readEscape (e ++ s) = .ok (c, ⟨later ++ s, le⟩) := by
  cases isBody with
  | plain ordinary => cases ordinary
  | @escape c later known isBody =>
    have read : ∃ d, ∀ s, ∃ le, readEscape (some c :: s) = .ok (d, ⟨s, le⟩) := by
      simp only [List.mem_cons, List.not_mem_nil, or_false] at known
      rcases known with rfl | rfl | rfl | rfl | rfl | rfl | rfl | rfl <;>
        exact ⟨_, fun s => ⟨by simp, rfl⟩⟩
    obtain ⟨d, read⟩ := read
    exact .inr ⟨d, later, isBody, Nat.lt_succ_self _, fun s => read (later ++ s)⟩
  | @hex x y z w later digits isBody =>
    rcases readUnicode_of_digits digits isBody with ⟨cause, fails⟩ | ⟨c, later', isBody', shorter, read⟩
    · refine .inl ⟨cause, fun s => ?_⟩
      simp only [List.cons_append, readEscape, fails s, Bind.bind, Except.bind]
    · refine .inr ⟨c, later', isBody', by simp only [List.length_cons]; omega, fun s => ?_⟩
      obtain ⟨le, read⟩ := read s
      refine ⟨by simp only [List.length_cons, List.cons_append] at le ⊢; omega, ?_⟩
      simp only [List.cons_append, readEscape, read, Bind.bind, Except.bind]

/-- The characters of a string are read from it, or refused for it, whatever follows. -/
theorem settles_readBody (isBody : IsBody body) : Settles readBody body fun _ => True := by
  induction length : body.length using Nat.strongRecOn generalizing body with
  | _ n ih =>
    have escaped {e : Symbols} (isBody : IsBody (some '\\' :: e)) (shorter : e.length < n) :
        Settles readBody (some '\\' :: e) fun _ => True := by
      rcases readEscape_of_body isBody with ⟨cause, fails⟩ | ⟨c, later, isLater, less, found⟩
      · refine ⟨.error cause, fun s _ => ?_⟩
        rw [List.cons_append, readBody, fails]
        rfl
      · obtain ⟨outcome, read⟩ := ih later.length (Nat.lt_trans less shorter) isLater rfl
        refine ⟨outcome.map (some c :: ·), fun s _ => ?_⟩
        obtain ⟨le, found⟩ := found s
        rw [List.cons_append, readBody, found]
        change readBody (later ++ s) >>= _ = _
        rw [read s trivial]
        cases outcome <;> rfl
    cases isBody with
    | close =>
      refine ⟨.ok [], fun s _ => ?_⟩
      rw [List.cons_append, readBody]
      rfl
    | @plain x later ordinary isLater =>
      obtain ⟨outcome, read⟩ := ih later.length (length ▸ Nat.lt_succ_self _) isLater rfl
      refine ⟨outcome.map (x :: ·), fun s _ => ?_⟩
      rw [List.cons_append, readBody_plain ordinary, read s trivial]
      cases outcome <;> rfl
    | escape known isLater => exact escaped (.escape known isLater) (length ▸ Nat.lt_succ_self _)
    | hex digits isLater => exact escaped (.hex digits isLater) (length ▸ Nat.lt_succ_self _)

theorem settles_readString (isBody : IsBody body) : Settles readString body fun _ => True := by
  obtain ⟨outcome, read⟩ := settles_readBody isBody
  cases outcome with
  | error cause =>
    refine ⟨.error cause, fun s _ => ?_⟩
    rw [readString, read s trivial]
    rfl
  | ok found =>
    cases decoded : found.mapM id with
    | none =>
      refine ⟨.error .badCharacter, fun s _ => ?_⟩
      simp only [readString, read s trivial, Except.map, Bind.bind, Except.bind, decoded]
    | some cs =>
      refine ⟨.ok (String.ofList cs), fun s _ => ?_⟩
      simp only [readString, read s trivial, Except.map, Bind.bind, Except.bind, decoded]

theorem exists_of_readString {t : String} (read : readString s = .ok (t, rest)) :
    ∃ body, s = body ++ rest ∧ IsBody body := by
  obtain ⟨⟨found, rest'⟩, read, whole⟩ := exists_of_bind_eq_ok read
  dsimp only at whole
  split at whole
  · cases whole
    exact exists_of_readBody read
  · cases whole

/-! ## Skipping a string -/

theorem exists_of_skipEscape {r : { r : Symbols // r.length ≤ s.length }} (skip : skipEscape s = .ok r) :
    ∃ e, s = e ++ r.1 ∧ Escapes e := by
  unfold skipEscape at skip
  split at skip
  · cases skip
  · obtain ⟨⟨n, r, le⟩, hex, skip⟩ := exists_of_bind_eq_ok skip
    obtain ⟨x, y, z, w, front, digits⟩ := exists_of_readHex hex
    cases skip
    exact ⟨[some 'u', some x, some y, some z, some w], congrArg (some 'u' :: ·) front,
      fun _ later => .hex digits later⟩
  · next c s _ =>
    split at skip
    · next known =>
      cases skip
      exact ⟨[some c], rfl, fun _ later => .escape known later⟩
    · cases skip
  · cases skip

/-- What is skipped as a string is one. -/
theorem exists_of_skipString (skip : skipString s = .ok rest) : ∃ body, s = body ++ rest ∧ IsBody body := by
  induction s using skipString.induct with
  | case1 => rw [skipString] at skip; cases skip
  | case2 s =>
    rw [skipString] at skip
    cases skip
    exact ⟨_, rfl, .close⟩
  | case3 s ih =>
    rw [skipString] at skip
    obtain ⟨⟨r, le⟩, escape, later⟩ := exists_of_bind_eq_ok skip
    obtain ⟨e, front, builds⟩ := exists_of_skipEscape escape
    obtain ⟨body, rfl, isBody⟩ := ih r le later
    refine ⟨some '\\' :: (e ++ body), ?_, builds body isBody⟩
    rw [front, List.cons_append, List.append_assoc]
  | case4 c s noQuote noBackslash low =>
    rw [skipString.eq_4 c s noQuote noBackslash, if_pos low] at skip
    cases skip
  | case5 c s noQuote noBackslash high ih =>
    rw [skipString.eq_4 c s noQuote noBackslash, if_neg high] at skip
    obtain ⟨body, rfl, isBody⟩ := ih skip
    exact ⟨some c :: body, rfl, .plain (isPlain_some_iff.mpr ⟨⟨noQuote, noBackslash⟩, high⟩) isBody⟩
  | case6 s ih =>
    rw [skipString] at skip
    obtain ⟨body, rfl, isBody⟩ := ih skip
    exact ⟨none :: body, rfl, .plain rfl isBody⟩

theorem skipString_plain {x : Option Char} (plain : isPlain x = true) (s : Symbols) :
    skipString (x :: s) = skipString s := by
  cases x with
  | none => rw [skipString]
  | some c =>
    obtain ⟨⟨noQuote, noBackslash⟩, high⟩ := isPlain_some_iff.mp plain
    rw [skipString.eq_4 c s noQuote noBackslash, if_neg high]

/-- A string is skipped whatever follows it. -/
theorem skipString_of_isBody (isBody : IsBody body) (s : Symbols) : skipString (body ++ s) = .ok s := by
  induction isBody with
  | close =>
    rw [List.cons_append, skipString]
    rfl
  | @plain x body ordinary _ ih =>
    rw [List.cons_append, skipString_plain ordinary, ih]
  | @escape c body known _ ih =>
    have skip : skipEscape (some c :: (body ++ s)) = .ok ⟨body ++ s, Nat.le_succ _⟩ := by
      rw [skipEscape]
      · exact if_pos known
      · rintro rfl
        revert known
        decide
    rw [List.cons_append, List.cons_append, skipString, skip]
    exact ih
  | @hex x y z w body digits _ ih =>
    obtain ⟨n, hex⟩ := readHex_of_digits digits
    obtain ⟨le, hex⟩ := hex (body ++ s)
    have skip : skipEscape (some 'u' :: some x :: some y :: some z :: some w :: (body ++ s)) =
        .ok ⟨body ++ s, Nat.le_succ_of_le le⟩ := by
      rw [skipEscape, hex]
      rfl
    simp only [List.cons_append]
    rw [skipString, skip]
    exact ih

end TokenSteward.Json
