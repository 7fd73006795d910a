import TokenSteward.Proofs.OAuth.Separation

/-! # Signed texts cannot be reworded

A holder of a key refuses a text before anything is read from it unless the text is the written form of
some contents, a point, and the written form of their digest. So there is one such text for each
contents, and whoever changes its signature in any way has a text that is refused. This is a matter of
what is verified; it does not say that nobody else can find the digest.
-/

namespace TokenSteward.OAuth

open TokenSteward.Json TokenSteward.Text

/-- The fault of contents from which no value can be read. -/
def StateFault.ofPayload (fault : Fault) : StateFault := .payload fault.place fault.message

namespace SigningKey

variable {α : Type} {k : SigningKey} {r : Reader α} {text : List Char}

/-- A text is refused before anything is read from it: it does not have its form, or its signature does
not fit. -/
def Refuses (k : SigningKey) (r : Reader α) (text : List Char) : Prop :=
  (∃ message, k.decode r text = .error (.malformed message)) ∨ k.decode r text = .error .mismatch

/-- A text that is not verified has not its form, or its signature does not fit. -/
theorem verify_cases (k : SigningKey) (text : List Char) :
    (∃ contents, k.verify text = .ok contents) ∨ (∃ message, k.verify text = .error (.malformed message)) ∨
      k.verify text = .error .mismatch := by
  unfold verify
  split
  · exact .inr (.inl ⟨_, rfl⟩)
  · split
    · exact .inr (.inl ⟨_, rfl⟩)
    · split
      · exact .inr (.inr rfl)
      · split
        · exact .inr (.inl ⟨_, rfl⟩)
        · exact .inl ⟨_, rfl⟩

/-- From a text that is verified a value is read, or its contents are no such value. -/
theorem decode_of_verify {contents : List UInt8} (verified : k.verify text = .ok contents) :
    k.decode r text = (r.front (Utf8.decode contents)).mapError .ofPayload := by
  simp only [decode, verified, Bind.bind, Except.bind]
  cases r.front (Utf8.decode contents) <;> rfl

/-- What is verified is not refused, and nothing else is taken. -/
theorem verified_iff : (∃ contents, k.verify text = .ok contents) ↔ ¬ k.Refuses r text := by
  constructor
  · rintro ⟨contents, verified⟩ refused
    rw [Refuses, decode_of_verify verified] at refused
    cases front : r.front (Utf8.decode contents) <;>
      simp [front, Except.mapError, StateFault.ofPayload] at refused
  · intro taken
    rcases k.verify_cases text with verified | ⟨message, failed⟩ | failed
    · exact verified
    · exact absurd (.inl ⟨message, by simp only [decode, failed, Bind.bind, Except.bind]⟩) taken
    · exact absurd (.inr (by simp only [decode, failed, Bind.bind, Except.bind])) taken

/-- A text with a payload in front is taken if the payload is written in the alphabet for URLs and its
signature follows, and only then. -/
theorem not_refuses_iff {payload signed : List Char} (clear : '.' ∉ payload) :
    ¬ k.Refuses r (payload ++ '.' :: signed) ↔
      (∃ contents, Base64.decode Base64.urlSafe payload = some contents) ∧
        signed = k.signature payload := by
  constructor
  · intro taken
    obtain ⟨contents, verified⟩ := verified_iff.mpr taken
    have whole := eq_of_verify verified
    have parts := cut?_append [] signed clear
    have parts' := cut?_append [] (k.signature (Base64.encode Base64.urlSafe contents))
      (Base64.point_not_mem_encode contents)
    simp only [List.append_assoc, List.cons_append, List.nil_append] at parts parts'
    rw [whole, parts'] at parts
    obtain ⟨rfl, rfl⟩ := Prod.mk.inj (Option.some.inj parts)
    exact ⟨⟨contents, Base64.decode_encode Base64.readable_urlSafe contents⟩, rfl⟩
  · rintro ⟨⟨contents, read⟩, rfl⟩
    obtain rfl := Base64.eq_encode_of_decode read
    exact verified_iff.mp ⟨contents, k.verify_signed contents⟩

/-- A text that is not refused consists of the written form of its contents, which are what a value is
read from, a point, and the written form of the digest of what is before. No other text is written form
of these contents, and no other text behind the point is taken. Each written form has one such text. -/
theorem only_text_of_payload (k : SigningKey) (r : Reader α) :
    (∀ text, ¬ k.Refuses r text → ∃ payload contents, '.' ∉ payload ∧
      text = payload ++ '.' :: Base64.encode Base64.urlSafe (Digest.hmac k.bytes (Utf8.encode payload)) ∧
      k.decode r text = (r.front (Utf8.decode contents)).mapError .ofPayload ∧
      (∀ written, Base64.decode Base64.urlSafe written = some contents ↔ written = payload) ∧
      ∀ signed, payload ++ '.' :: signed ≠ text → k.Refuses r (payload ++ '.' :: signed)) ∧
    ∀ payload contents, Base64.decode Base64.urlSafe payload = some contents →
      ∃! text, ¬ k.Refuses r text ∧ ∃ signed, text = payload ++ '.' :: signed := by
  constructor
  · intro text taken
    obtain ⟨contents, verified⟩ := verified_iff.mpr taken
    have whole := eq_of_verify verified
    refine ⟨Base64.encode Base64.urlSafe contents, contents, Base64.point_not_mem_encode contents, whole,
      decode_of_verify verified, fun written => ?_, fun signed other => ?_⟩
    · constructor
      · exact Base64.eq_encode_of_decode
      · rintro rfl
        exact Base64.decode_encode Base64.readable_urlSafe contents
    · by_contra taken
      have fits := (not_refuses_iff (Base64.point_not_mem_encode contents)).mp taken
      exact other (by rw [whole, fits.2])
  · intro payload contents read
    have clear : '.' ∉ payload := Base64.eq_encode_of_decode read ▸ Base64.point_not_mem_encode contents
    refine ⟨payload ++ '.' :: k.signature payload,
      ⟨(not_refuses_iff clear).mpr ⟨⟨contents, read⟩, rfl⟩, _, rfl⟩, ?_⟩
    rintro text ⟨taken, signed, rfl⟩
    rw [((not_refuses_iff clear).mp taken).2]

/-- A value that is no contents of a link. -/
def probe : Value := .string "probe"

/-- What was signed is taken, though it is no contents of a link, and refused once the signature is
filled up. -/
theorem only_text_of_payload_probe : ∃ k, SigningKey.ofBytes (List.replicate 32 7) = .ok k ∧
    k.decode LinkState.reader (k.sign probe) = .error (.payload "."
      "invalid type: string \"probe\", expected struct AnonymousOAuthState") ∧
    ¬ k.Refuses LinkState.reader (k.sign probe) ∧
    k.Refuses LinkState.reader (k.sign probe ++ ['=']) := by
  have enough : 32 ≤ (List.replicate 32 (7 : UInt8)).length := by decide
  let k : SigningKey := ⟨List.replicate 32 7, enough⟩
  have verified := k.verify_sign probe
  have taken : ¬ k.Refuses LinkState.reader (k.sign probe) := verified_iff.mp ⟨_, verified⟩
  obtain ⟨payload, contents, _, whole, _, _, others⟩ :=
    (only_text_of_payload k LinkState.reader).1 _ taken
  have read : (LinkState.reader.front (Utf8.decode (Utf8.encode probe.text))).mapError StateFault.ofPayload =
      .error (.payload "." "invalid type: string \"probe\", expected struct AnonymousOAuthState") := by
    decide +kernel
  refine ⟨k, dif_pos enough, (decode_of_verify verified).trans read, taken, ?_⟩
  have filled := others
    (Base64.encode Base64.urlSafe (Digest.hmac k.bytes (Utf8.encode payload)) ++ ['='])
  rw [whole] at filled ⊢
  rw [List.append_assoc, List.cons_append]
  exact filled fun same => by simpa using congrArg List.length same

end SigningKey

end TokenSteward.OAuth
