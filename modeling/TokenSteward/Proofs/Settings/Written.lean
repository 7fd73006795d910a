import TokenSteward.Proofs.Delay.Admitted
import TokenSteward.Proofs.Resource.Written

/-! # Written settings are read back

Settings that were saved are read again as they are: every number with all its bits, the key of links with
whatever marks it has, and no links if there were none. They are checked then as they would have been
checked before.
-/

namespace TokenSteward

open TokenSteward.Json TokenSteward.Json.Reader TokenSteward.Resource TokenSteward.Url

/-- A number of sixty-four bits is read back, whatever it is called. -/
theorem Json.Reader.reads_word (wanted : String) (n : UInt64) : (word wanted).Reads (.nat n.toNat) n := by
  have read := (reads_natural wanted (Nat.le_of_lt_succ n.toNat_lt) (Nat.le_refl maxWord)).map
    fun n => UInt64.ofNat n.toNat
  rwa [Int.toNat_natCast, UInt64.ofNat_toNat] at read

/-- A URL whose text is parsed to it again is read back. -/
theorem Url.reads_render {u : Url} (again : Url.parse u.render = .ok u) :
    Url.reader.Reads (.string u.render) u :=
  (reads_text _ _).refine (by rw [again])

namespace LinkSettings

/-- Link settings are read back, whatever marks their key has. -/
theorem reads_toValue {l : LinkSettings} (again : Url.parse l.baseUrl.render = .ok l.baseUrl) :
    reader.Reads l.toValue l := by
  refine reads_written (.cons ((Url.reads_render again).required _ _) ?_) (by decide)
  exact .cons ((reads_string l.stateKey).required _ _) (.nil _)

end LinkSettings

namespace Settings

variable {s : Settings}

/-- Settings are read back before they are checked. A field is left out where there are no links. -/
theorem reads_toValue (again : ∀ l, s.links = some l → Url.parse l.baseUrl.render = .ok l.baseUrl) :
    reader.Reads s.toValue s := by
  -- Of link settings only those that are there are known to be read back, so `Written.value` does not apply.
  have links : Written [optional "oauth" (option LinkSettings.reader) fun l s => { s with links := l }]
      (s.links.map fun l => ("oauth", l.toValue)).toList { s with links := none } s := by
    cases linked : s.links with
    | none =>
      have same : { s with links := none } = s := by rw [← linked]
      exact .skip rfl (by simpa only [same] using .nil s)
    | some l =>
      have read := reads_option_some (LinkSettings.reads_toValue (again l linked)) (.object _)
      have same : { s with links := some l } = s := by rw [← linked]
      exact .cons (read.optional _ _) (by simpa only [same] using .nil s)
  refine reads_written (b := s) (.cons ((reads_word "usize" s.workers).optional _ _) ?_) (by decide)
  refine .cons ((reads_word "u64" s.resyncPeriodSecs).optional _ _) ?_
  refine .cons ((reads_word "u64" s.deadlineSecs).optional _ _) ?_
  refine .cons ((reads_word "u64" s.backoffBaseMillis).optional _ _) ?_
  refine .cons ((reads_word "u64" s.backoffMaxSecs).optional _ _) ?_
  exact .cons ((reads_word "u64" s.recheckSecs).optional _ _) links

/-- Settings that are read from a text are checked. -/
theorem ofText_of_reads {v : Value} (reads : reader.Reads v s) :
    ofText v.render = s.validate.map fun _ => s := by
  have front : reader.front (symbols v.render) = .ok s := by
    rw [symbols, Value.render, String.toList_ofList]
    exact reads.front
  simp only [ofText, front]
  cases s.validate <;> rfl

/-- Settings are read back from their text if they pass the checks, and otherwise are refused for the fault
that the checks find in them. -/
theorem ofText_render (s : Settings)
    (again : ∀ l, s.links = some l → Url.parse l.baseUrl.render = .ok l.baseUrl) :
    (s.validate = .ok () → ofText s.toValue.render = .ok s) ∧
      ∀ fault, s.validate = .error fault → ofText s.toValue.render = .error fault := by
  have read := ofText_of_reads (reads_toValue again)
  constructor
  · intro admitted
    rw [read, admitted]
    rfl
  · intro fault refused
    rw [read, refused]
    rfl

/-- The greatest numbers with a key that needs escapes and is none. -/
def misspelt : Settings :=
  { utmost with links := utmost.links.map fun l => { l with stateKey := "\"\\\n\t\x01é🔑" } }

/-- The greatest numbers are read back with the links. If the key is none, they are refused for the key, and
if there is no worker besides, for the worker. -/
theorem ofText_render_utmost :
    (∀ l, utmost.links = some l → Url.parse l.baseUrl.render = .ok l.baseUrl) ∧
      ofText utmost.toValue.render = .ok utmost ∧
      ofText misspelt.toValue.render = .error .keyEncoding ∧
      ofText (misspelt.withWorkers 0).toValue.render = .error (.nonPositive "workers") := by
  have again : ∀ l, utmost.links = some l → Url.parse l.baseUrl.render = .ok l.baseUrl := by
    rintro l ⟨⟩
    decide +kernel
  have again' : ∀ l, misspelt.links = some l → Url.parse l.baseUrl.render = .ok l.baseUrl := by
    rintro l ⟨⟩
    decide +kernel
  exact ⟨again, (ofText_render utmost again).1 (by decide +kernel),
    (ofText_render misspelt again').2 _ (by decide +kernel),
    (ofText_render (misspelt.withWorkers 0) again').2 _ (by decide +kernel)⟩

end Settings

end TokenSteward
