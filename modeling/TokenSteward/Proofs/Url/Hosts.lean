import TokenSteward.Proofs.Bind
import TokenSteward.Proofs.Json.Numbers
import TokenSteward.Url.Parser

/-! # Hosts without marks

A question mark begins the query of a URL and a number sign its fragment, so neither may stand in what is
before. What a URL writes by number has no marks, nor has a domain: its labels consist of characters that
may stand in a label, or of letters, digits and hyphens that stand for such characters.
-/

namespace TokenSteward.Url

open TokenSteward.Number TokenSteward.Text

/-- No mark of a query or a fragment stands in a text. -/
def Unmarked (s : List Char) : Prop := ∀ c ∈ s, endsPath c = false

instance : DecidablePred Unmarked := fun s => List.decidableBAll (fun c => endsPath c = false) s

namespace Unmarked

variable {c : Char} {s t : List Char}

@[simp] theorem nil : Unmarked [] := List.forall_mem_nil _

@[simp] theorem cons_iff : Unmarked (c :: s) ↔ endsPath c = false ∧ Unmarked s := List.forall_mem_cons

@[simp] theorem append_iff : Unmarked (s ++ t) ↔ Unmarked s ∧ Unmarked t := List.forall_mem_append

theorem flatMap {α : Type} {all : List α} {f : α → List Char} (each : ∀ a ∈ all, Unmarked (f a)) :
    Unmarked (all.flatMap f) := by
  intro c among
  obtain ⟨a, member, here⟩ := List.mem_flatMap.mp among
  exact each a member c here

theorem iff_not_mem : Unmarked s ↔ '?' ∉ s ∧ '#' ∉ s := by
  simp only [Unmarked, endsPath, Bool.or_eq_false_iff, beq_eq_false_iff_ne]
  grind

theorem mono (unmarked : Unmarked t) (among : s ⊆ t) : Unmarked s := fun c here => unmarked c (among here)

end Unmarked

/-- A character is no mark if it is of a class that the two marks are not of. -/
theorem endsPath_eq_false {fits : Char → Bool} (query : fits '?' = false) (fragment : fits '#' = false)
    {c : Char} (fine : fits c = true) : endsPath c = false := by
  simp only [endsPath, Bool.or_eq_false_iff, beq_eq_false_iff_ne, ne_eq]
  constructor
  · rintro rfl
    exact absurd fine (by rw [query]; decide)
  · rintro rfl
    exact absurd fine (by rw [fragment]; decide)

/-! ## Digits -/

theorem unmarked_digits (n : Nat) : Unmarked (digits n) :=
  fun _ among => endsPath_eq_false (by decide) (by decide) (Json.isDigit_of_mem_digits among)

theorem unmarked_toDigits (n : Nat) : Unmarked (Nat.toDigits 16 n) := by
  have small : ∀ d < 16, endsPath (Nat.digitChar d) = false := by decide
  induction n using Nat.strongRecOn with
  | _ n ih =>
    rw [Nat.toDigits_eq_if (by decide)]
    split
    · next low => simpa using small n low
    · simpa using ⟨ih (n / 16) (by omega), small (n % 16) (by omega)⟩

/-! ## Characters by number -/

theorem unmarked_percentByte (b : UInt8) : Unmarked (percentByte b) := by
  have digit : ∀ d < 16, endsPath (upperDigit d) = false := by decide
  have bound := b.toNat_lt
  have mark : endsPath '%' = false := by decide
  simpa [percentByte, mark] using
    ⟨digit (b.toNat / 16) (by omega), digit (b.toNat % 16) (by omega)⟩

/-- A text has no marks when the marks that stand in it are written by number. -/
theorem unmarked_percentEncode {escapes : Escapes} {s : List Char}
    (covered : ∀ c ∈ s, endsPath c = true → isEscaped escapes c = true) :
    Unmarked (percentEncode escapes s) := by
  refine .flatMap fun c here => ?_
  split
  · exact .flatMap fun b _ => unmarked_percentByte b
  · next plain =>
    rw [Unmarked.cons_iff, Bool.eq_false_iff]
    exact ⟨fun mark => plain (covered c here mark), .nil⟩

theorem isEscaped_of_endsPath {escapes : Escapes} (both : ['#', '?'] ⊆ escapes) {c : Char}
    (mark : endsPath c = true) : isEscaped escapes c = true := by
  simp only [endsPath, Bool.or_eq_true, beq_iff_eq] at mark
  have listed : c ∈ escapes := both (by rcases mark with rfl | rfl <;> simp)
  simp [isEscaped, listed]

theorem unmarked_pathEscapes (s : List Char) : Unmarked (percentEncode pathEscapes s) :=
  unmarked_percentEncode fun _ _ => isEscaped_of_endsPath (by decide)

theorem unmarked_userEscapes (s : List Char) : Unmarked (percentEncode userEscapes s) :=
  unmarked_percentEncode fun _ _ => isEscaped_of_endsPath (by decide)

theorem unmarked_controlEscapes {s : List Char} (unmarked : Unmarked s) :
    Unmarked (percentEncode controlEscapes s) :=
  unmarked_percentEncode fun c here mark => by simp [unmarked c here] at mark

/-! ## Punycode -/

namespace Punycode

theorem endsPath_digitSymbol {d : Nat} (small : d < 36) : endsPath (digitSymbol d) = false := by
  have all : ∀ e < 36, endsPath (digitSymbol e) = false := by decide
  exact all d small

theorem threshold_le (place bias : Nat) : threshold place bias ≤ 26 := by
  simp only [threshold]
  omega

theorem unmarked_numberDigits (bias place n : Nat) : Unmarked (numberDigits bias place n) := by
  fun_induction numberDigits bias place n with
  | case1 place n t last =>
    have low : t ≤ 26 := threshold_le place bias
    simpa using endsPath_digitSymbol (d := n) (by omega)
  | case2 place n t more ih =>
    have low : t ≤ 26 := threshold_le place bias
    have high : (n - t) % (36 - t) < 36 - t := Nat.mod_lt _ (by omega)
    exact Unmarked.cons_iff.mpr ⟨endsPath_digitSymbol (by omega), ih⟩

theorem unmarked_passed {basic point : Nat} {p : Progress} (unmarked : Unmarked p.written) (c : Char) :
    Unmarked (passed basic point p c).written := by
  unfold passed
  split
  · exact unmarked
  · split
    · exact Unmarked.append_iff.mpr ⟨unmarked, unmarked_numberDigits _ _ _⟩
    · exact unmarked

theorem unmarked_foldl_passed {basic point : Nat} (label : List Char) {p : Progress}
    (unmarked : Unmarked p.written) : Unmarked (label.foldl (passed basic point) p).written := by
  induction label generalizing p with
  | nil => exact unmarked
  | cons c label ih => exact ih (unmarked_passed unmarked c)

theorem unmarked_putIn {label : List Char} {basic : Nat} (points : List Nat) {next : Nat} {p : Progress}
    (unmarked : Unmarked p.written) : Unmarked (putIn label basic points next p).written := by
  induction points generalizing next p with
  | nil => exact unmarked
  | cons point more ih => exact ih (unmarked_foldl_passed label unmarked)

/-- The written form of a label adds only letters, digits and hyphens to its ASCII characters. -/
theorem unmarked_encode {label : List Char} (unmarked : Unmarked label) : Unmarked (encode label) := by
  have basic : Unmarked (label.filter (·.toNat < 128)) :=
    unmarked.mono fun _ here => (List.mem_filter.mp here).1
  have hyphen : endsPath '-' = false := by decide
  unfold encode
  refine Unmarked.append_iff.mpr ⟨?_, unmarked_putIn _ .nil⟩
  split
  · exact .nil
  · simpa [hyphen] using basic

theorem endsPath_of_digit? {c : Char} {d : Nat} (digit : digit? c = some d) : endsPath c = false :=
  @endsPath_eq_false (fun c => (digit? c).isSome) (by decide) (by decide) c
    (Option.isSome_of_eq_some digit)

theorem unmarked_of_number? {bias : Nat} {s rest : List Char} {place weight n sum : Nat}
    (read : number? bias s place weight n = some (sum, rest)) (unmarked : Unmarked rest) :
    Unmarked s := by
  induction s generalizing place weight n with
  | nil => exact .nil
  | cons c s ih =>
    simp only [number?, Option.bind_eq_bind, Option.bind_eq_some_iff] at read
    obtain ⟨d, digit, read⟩ := read
    refine Unmarked.cons_iff.mpr ⟨endsPath_of_digit? digit, ?_⟩
    split at read
    · contradiction
    · split at read
      · cases read
        exact unmarked
      · split at read
        · contradiction
        · exact ih read

/-- Numbers are made of letters and digits, and nothing is taken out of a label while they are read. -/
theorem readIn_eq_some {fuel : Nat} {s : List Char} {point place bias : Nat} {label shown : List Char}
    (read : readIn fuel s point place bias label = some shown) : Unmarked s ∧ label ⊆ shown := by
  fun_induction readIn fuel s point place bias label with
  | case1 => cases read; exact ⟨.nil, List.Subset.refl _⟩
  | case2 => contradiction
  | case3 fuel s point place bias label _ ih =>
    simp only [Option.bind_eq_bind, Option.bind_eq_some_iff] at read
    obtain ⟨⟨sum, rest⟩, number, read⟩ := read
    split at read
    · obtain ⟨unmarked, kept⟩ := ih _ _ read
      refine ⟨unmarked_of_number? number unmarked, fun c here => kept ?_⟩
      rw [← List.take_append_drop (sum % (label.length + 1)) label] at here
      grind
    · contradiction

/-- A text is divided at its last hyphen, if it has any. -/
theorem eq_tail_or_eq_halves (s : List Char) :
    let tail := (s.reverse.takeWhile (· != '-')).reverse
    s = tail ∨ s = s.take (s.length - tail.length - 1) ++ '-' :: tail := by
  intro tail
  have parts : (s.reverse.dropWhile (· != '-')).reverse ++ tail = s := by
    rw [← List.reverse_append, List.takeWhile_append_dropWhile, List.reverse_reverse]
  cases behind : s.reverse.dropWhile (· != '-') with
  | nil => exact .inl (by simpa [behind] using parts.symm)
  | cons c more =>
    have hyphen := List.head?_dropWhile_not (· != '-') s.reverse
    simp only [behind, List.head?_cons, bne_eq_false_iff_eq] at hyphen
    have whole : s = more.reverse ++ '-' :: tail := by simpa [behind, hyphen] using parts.symm
    have front : s.length - tail.length - 1 = more.reverse.length := by
      rw [whole, List.length_append, List.length_cons]
      omega
    refine .inr ?_
    rw [front, whole, List.take_left]

/-- A text that stands for a label has no marks that the label does not have. -/
theorem unmarked_of_decode? {s shown : List Char} (read : decode? s = some shown)
    (unmarked : Unmarked shown) : Unmarked s := by
  simp only [decode?] at read
  split at read
  · contradiction
  · split at read
    · obtain ⟨numbers, kept⟩ := readIn_eq_some read
      have hyphen : endsPath '-' = false := by decide
      rcases eq_tail_or_eq_halves s with whole | halves
      · rw [whole]
        exact numbers
      · rw [halves]
        exact Unmarked.append_iff.mpr
          ⟨unmarked.mono kept, Unmarked.cons_iff.mpr ⟨hyphen, numbers⟩⟩
    · contradiction

end Punycode

/-! ## Domains -/

namespace Label

theorem unmarked_of_isSoundLabel {s : List Char} (sound : isSoundLabel s = true) : Unmarked s := by
  simp only [isSoundLabel, Bool.and_eq_true, List.all_eq_true] at sound
  exact fun c here => endsPath_eq_false (by decide) (by decide) (sound.1.1.1 c here)

theorem unmarked_of_decoded? {code shown : List Char} (read : decoded? code = some shown)
    (unmarked : Unmarked shown) : Unmarked code := by
  simp only [decoded?] at read
  split at read
  · contradiction
  · simp only [Option.bind_eq_bind, Option.bind_eq_some_iff] at read
    obtain ⟨text, punycode, read⟩ := read
    split at read
    · cases read
      exact Punycode.unmarked_of_decode? punycode unmarked
    · contradiction

/-- A label is written without marks, whether it stands for itself or for another. -/
theorem unmarked_written {s : List Char} {label : Label} (read : ofText? s = some label) :
    Unmarked label.written := by
  have front : Unmarked mark := by decide
  simp only [ofText?, Option.bind_eq_bind] at read
  split at read
  · next code behind =>
    obtain ⟨found, formed, read⟩ := Option.bind_eq_some_iff.mp read
    obtain ⟨shown, decoded, rfl⟩ := Option.map_eq_some_iff.mp formed
    split at read
    · next sound =>
      cases read
      rw [eq_append_of_after? behind]
      exact Unmarked.append_iff.mpr
        ⟨front, unmarked_of_decoded? decoded (unmarked_of_isSoundLabel sound)⟩
    · contradiction
  · simp only [Option.bind_some] at read
    split at read
    · next sound =>
      cases read
      have shown := unmarked_of_isSoundLabel sound
      split
      · exact shown
      · exact Unmarked.append_iff.mpr ⟨front, Punycode.unmarked_encode shown⟩
    · contradiction

end Label

theorem unmarked_joinLabels {labels : List (List Char)} (each : ∀ label ∈ labels, Unmarked label) :
    Unmarked (joinLabels labels) := by
  have stop : endsPath '.' = false := by decide
  fun_induction joinLabels labels with
  | case1 => exact .nil
  | case2 label => exact each label List.mem_cons_self
  | case3 label next rest ih =>
    obtain ⟨first, others⟩ := List.forall_mem_cons.mp each
    exact Unmarked.append_iff.mpr ⟨first, Unmarked.cons_iff.mpr ⟨stop, ih others⟩⟩

theorem unmarked_asciiDomain? {bytes : List UInt8} {domain : List Char}
    (read : asciiDomain? bytes = some domain) : Unmarked domain := by
  simp only [asciiDomain?, Option.bind_eq_bind, Option.bind_eq_some_iff] at read
  obtain ⟨-, -, s, -, labels, formed, read⟩ := read
  split at read
  · contradiction
  · obtain rfl := Option.some.inj read
    refine unmarked_joinLabels fun written among => ?_
    obtain ⟨label, member, rfl⟩ := List.mem_map.mp among
    obtain ⟨part, -, form⟩ := exists_of_mem_mapM formed member
    exact Label.unmarked_written form

/-! ## Hosts -/

theorem unmarked_piecesText (pieces : List Nat) : Unmarked (piecesText pieces) := by
  have colon : endsPath ':' = false := by decide
  fun_induction piecesText pieces with
  | case1 => exact .nil
  | case2 n => exact unmarked_toDigits n
  | case3 n m rest ih =>
    exact Unmarked.append_iff.mpr ⟨unmarked_toDigits n, Unmarked.cons_iff.mpr ⟨colon, ih⟩⟩

theorem unmarked_address6Text (pieces : List Nat) : Unmarked (address6Text pieces) := by
  have colon : endsPath ':' = false := by decide
  simp only [address6Text]
  split
  · exact unmarked_piecesText pieces
  · simp [unmarked_piecesText, colon]

namespace Host

theorem unmarked_four (address : Nat) : Unmarked (text (.four address)) := by
  refine unmarked_joinLabels ?_
  simp [unmarked_digits]

theorem unmarked_six (pieces : List Nat) : Unmarked (text (.six pieces)) := by
  have opening : endsPath '[' = false := by decide
  have closing : endsPath ']' = false := by decide
  simp [text, unmarked_address6Text, opening, closing]

theorem unmarked_of_bracketed? {s : List Char} {host : Host} (read : bracketed? s = some (.ok host)) :
    Unmarked host.text := by
  unfold bracketed? at read
  split at read
  · have read := Option.some.inj read
    split at read
    · split at read
      · cases read
        exact unmarked_six _
      · contradiction
    · contradiction
  · contradiction

theorem unmarked_of_ofText {s : List Char} {host : Host} (read : ofText s = .ok host) :
    Unmarked host.text := by
  unfold ofText at read
  split at read
  · next bracketed => exact unmarked_of_bracketed? (read ▸ bracketed)
  · split at read
    · contradiction
    · contradiction
    · next domain formed =>
      split at read
      · split at read
        · cases read
          exact unmarked_four _
        · contradiction
      · cases read
        exact unmarked_asciiDomain? formed

theorem unmarked_of_ofOpaqueText {s : List Char} {host : Host} (read : ofOpaqueText s = .ok host) :
    Unmarked host.text := by
  unfold ofOpaqueText at read
  split at read
  · next bracketed => exact unmarked_of_bracketed? (read ▸ bracketed)
  · split at read
    · contradiction
    · next allowed =>
      cases read
      have fine : ∀ c ∈ s, (!deniedHere.contains c) = true := by simpa using allowed
      refine unmarked_controlEscapes fun c here => ?_
      exact @endsPath_eq_false (fun c => !deniedHere.contains c) (by decide) (by decide) c (fine c here)

end Host

end TokenSteward.Url
