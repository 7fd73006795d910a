import TokenSteward.Proofs.Grammar.Records
import TokenSteward.Settings

/-! # Settings are read from the first value of a text

Settings are read from a list or an object at the front of a text, and nothing behind it is looked at. So
the text is accepted or refused as that value alone would be, while it is one value as a whole just if
blanks alone follow. The numbers, the texts and the links of settings are readers that go by their
values.
-/

namespace TokenSteward

open TokenSteward.Json TokenSteward.Json.Reader

/-- A symbol sequence that is taken apart is that of a text taken apart. -/
theorem exists_of_symbols_eq_append {text : String} {a b : Symbols} (split : symbols text = a ++ b) :
    ∃ s t : String, text = s ++ t ∧ symbols s = a ∧ symbols t = b := by
  obtain ⟨cs, ds, whole, rfl, rfl⟩ := List.map_eq_append_iff.mp split
  refine ⟨String.ofList cs, String.ofList ds, ?_, ?_, ?_⟩
  · rw [← String.ofList_append, ← whole, String.ofList_toList]
  · rw [symbols, String.toList_ofList]
  · rw [symbols, String.toList_ofList]

theorem symbols_append (s t : String) : symbols (s ++ t) = symbols s ++ symbols t := by
  rw [symbols, String.toList_append, List.map_append, symbols, symbols]

namespace Url

theorem goesByValue_reader : reader.GoesByValue := (goesByValue_text _).refine _

end Url

namespace LinkSettings

theorem goesByValue_reader : reader.GoesByValue := by
  refine goesByValue_record ?_ _ _
  simp only [List.forall_mem_cons]
  exact ⟨Url.goesByValue_reader.required _ _, goesByValue_string.required _ _, fun _ among => nomatch among⟩

end LinkSettings

namespace Settings

theorem goesByValue_word (wanted : String) : (word wanted).GoesByValue := (goesByValue_whole _ _ _).map _

/-- Settings are a record, all of whose fields go by their values. -/
theorem exists_record : ∃ label known, reader = record label standard known ∧
    ∀ f ∈ known, f.read.GoesByValue := by
  refine ⟨_, _, rfl, ?_⟩
  have numbers := goesByValue_word "u64"
  simp only [List.forall_mem_cons]
  exact ⟨(goesByValue_word "usize").optional _ _, numbers.optional _ _, numbers.optional _ _,
    numbers.optional _ _, numbers.optional _ _, numbers.optional _ _,
    LinkSettings.goesByValue_reader.option.optional _ _, fun _ among => nomatch among⟩

theorem goesByValue_reader : reader.GoesByValue := by
  obtain ⟨label, known, same, goes⟩ := exists_record
  exact same ▸ goesByValue_record goes label standard

/-- A text that begins with a list or an object, with blanks before it at most, and goes on somehow. -/
structure Leading (text gap value rest : String) : Prop where
  parts : text = gap ++ (value ++ rest)
  blank : Blanks (symbols gap)
  isValue : IsValue (symbols value)
  enclosed : Enclosed (symbols value)

variable {text gap value rest : String} {s : Settings}

theorem exists_leading {left : Symbols} (read : reader (symbols text) = .ok (s, left)) :
    ∃ gap value rest, Leading text gap value rest := by
  obtain ⟨label, known, same, goes⟩ := exists_record
  rw [same] at read
  obtain ⟨gap, v, split, blank, isValue, enclosed⟩ := exists_of_record goes read
  obtain ⟨gap, behind, rfl, rfl, split'⟩ := exists_of_symbols_eq_append split
  obtain ⟨value, rest, rfl, rfl, rfl⟩ := exists_of_symbols_eq_append split'
  exact ⟨gap, value, rest, rfl, blank, isValue, enclosed⟩

theorem Leading.symbols_eq (leading : Leading text gap value rest) :
    symbols text = symbols gap ++ (symbols value ++ symbols rest) := by
  rw [leading.parts, symbols_append, symbols_append]

/-- What follows the list or the object has no part in what is read. -/
theorem Leading.front_eq (leading : Leading text gap value rest) :
    reader.front (symbols text) = reader.front (symbols value) := by
  obtain ⟨outcome, answer⟩ := goesByValue_reader.settles leading.isValue
  have alone := answer [] (.inl leading.enclosed)
  rw [List.append_nil] at alone
  rw [leading.symbols_eq, front, goesByValue_reader.skips leading.blank,
    answer (symbols rest) (.inl leading.enclosed), front, alone]
  cases outcome <;> rfl

theorem Leading.ofText_eq (leading : Leading text gap value rest) : ofText text = ofText value := by
  rw [ofText, leading.front_eq, ofText]

theorem Leading.isDocument_iff (leading : Leading text gap value rest) :
    IsDocument (symbols text) ↔ Blanks (symbols rest) := by
  rw [leading.symbols_eq]
  exact isDocument_append_iff leading.blank leading.isValue (.inl leading.enclosed)

/-- Settings are read from a text just as from the list or the object that it begins with, while the text is
one value just if blanks alone follow. A text that begins otherwise is refused where it cannot be read. -/
theorem ofText_goes_by_first_value (text : String) :
    ((∃ place message, ofText text = .error (.parse place message)) ∨
      ∃ gap value rest, Leading text gap value rest) ∧
    ∀ gap value rest, Leading text gap value rest →
      ofText text = ofText value ∧ (IsDocument (symbols text) ↔ Blanks (symbols rest)) := by
  constructor
  · cases read : reader (symbols text) with
    | error fault =>
      refine .inl ⟨fault.place, fault.message, ?_⟩
      simp only [ofText, front, read, Bind.bind, Except.bind]
    | ok found => exact .inr (exists_leading read)
  · exact fun gap value rest leading => ⟨leading.ofText_eq, leading.isDocument_iff⟩

/-- An object, and behind it another one that contradicts it. -/
def contradicted : String := "\x7b\"workers\": 8\x7d \x7b\"workers\": 0\x7d"

/-- Of two objects the first one is read. -/
theorem ofText_goes_by_first_value_contradicted :
    Leading contradicted "" "\x7b\"workers\": 8\x7d" " \x7b\"workers\": 0\x7d" ∧
      ofText contradicted = ofText "\x7b\"workers\": 8\x7d" ∧ ¬ IsDocument (symbols contradicted) := by
  have leading : Leading contradicted "" "\x7b\"workers\": 8\x7d" " \x7b\"workers\": 0\x7d" :=
    ⟨by decide, blanks_nil, isValue_of_skipValue (by decide +kernel) rfl, .object, _, rfl⟩
  obtain ⟨same, whole⟩ := (ofText_goes_by_first_value contradicted).2 _ _ _ leading
  exact ⟨leading, same, fun document => absurd (whole.mp document) (by decide)⟩

/-- Settings are accepted with others behind them that would be refused, though the text is no one value. -/
theorem exists_ofText_not_isDocument : ∃ (first second : String) (s : Settings),
    ofText second = .error (.nonPositive "workers") ∧ ofText (first ++ second) = .ok s ∧
      ¬ IsDocument (symbols (first ++ second)) :=
  ⟨"\x7b\"workers\": 8\x7d", " \x7b\"workers\": 0\x7d", { standard with workers := 8 },
    by decide +kernel, by decide +kernel, by decide +kernel⟩

end Settings

end TokenSteward
