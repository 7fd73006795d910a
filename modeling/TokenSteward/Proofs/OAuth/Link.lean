import TokenSteward.OAuth.Link
import TokenSteward.Proofs.Json.RoundTrip
import TokenSteward.Proofs.Text.Base64
import TokenSteward.Proofs.Text.Utf8

/-! # Links tell what they say

What was signed with a key is read back by a holder of the key, and who built a link tells its
contents again.
-/

namespace TokenSteward

open TokenSteward.Json TokenSteward.Text

namespace Provider.ProviderType

theorem ofName_name (t : ProviderType) : ofName t.name = .ok t := by
  unfold ofName
  split
  · rfl
  · next found =>
    rw [t.sound] at found
    contradiction

theorem reads_toValue (t : ProviderType) : reader.Reads t.toValue t :=
  (Reader.reads_string t.name).refine (by rw [ofName_name])

end Provider.ProviderType

namespace OAuth

open Json.Reader

namespace SigningKey

variable {α : Type} {r : Reader α} {v : Value} {a : α}

/-- Contents with the signature of their written form are verified. -/
theorem verify_signed (k : SigningKey) (contents : List UInt8) :
    k.verify (Base64.encode Base64.urlSafe contents ++
      '.' :: k.signature (Base64.encode Base64.urlSafe contents)) = .ok contents := by
  have parts := cut?_append [] (k.signature (Base64.encode Base64.urlSafe contents))
    (Base64.point_not_mem_encode contents)
  have signed := Base64.decode_encode Base64.readable_urlSafe
    (Digest.hmac k.bytes (Utf8.encode (Base64.encode Base64.urlSafe contents)))
  have payload := Base64.decode_encode Base64.readable_urlSafe contents
  rw [List.append_assoc] at parts
  change cut? ['.'] (Base64.encode Base64.urlSafe contents ++
    '.' :: k.signature (Base64.encode Base64.urlSafe contents)) = _ at parts
  simp only [verify, parts]
  simp only [signature, signed, payload, ne_eq, not_true_eq_false, if_false]

/-- What was signed with a key is verified by it. -/
theorem verify_sign (k : SigningKey) (v : Value) : k.verify (k.sign v) = .ok (Utf8.encode v.text) :=
  k.verify_signed (Utf8.encode v.text)

/-- What was signed with a key is read back by a holder of it. -/
theorem decode_sign (k : SigningKey) (reads : r.Reads v a) : k.decode r (k.sign v) = .ok a := by
  simp only [decode, verify_sign, Utf8.decode_encode, reads.front, Bind.bind, Except.bind]

end SigningKey

/-- The written contents of a link are read back, whether they have an issue time or not. -/
theorem LinkState.reads_toValue (s : LinkState) : reader.Reads s.toValue s := by
  obtain ⟨name, space, issued, scopes, type, url⟩ := s
  have type_ := Provider.ProviderType.reads_toValue type
  by_cases undated : issued = 0
  · subst undated
    refine reads_record ["serviceProviderUrl", "serviceProviderType", "scopes",
      "tokenNamespace", "tokenName"] ?_ (by decide)
    refine .cons (record.reads_field rfl ((reads_string name).required _ _) rfl) ?_
    refine .cons (record.reads_field rfl ((reads_string space).required _ _) rfl) ?_
    refine .cons (record.reads_field rfl ((reads_strings scopes).required _ _) rfl) ?_
    refine .cons (record.reads_field rfl (type_.required _ _) rfl) ?_
    refine .cons (record.reads_field rfl ((reads_string url).required _ _) rfl) ?_
    exact .nil _
  · have value : toValue ⟨name, space, issued, scopes, type, url⟩ = .object [
        ("tokenName", .string name), ("tokenNamespace", .string space),
        ("issuedAt", .number (.whole issued.toInt)), ("scopes", .strings scopes),
        ("serviceProviderType", type.toValue), ("serviceProviderUrl", .string url)] := by
      simp [toValue, undated]
    rw [value]
    refine reads_record ["serviceProviderUrl", "serviceProviderType", "scopes", "issuedAt",
      "tokenNamespace", "tokenName"] ?_ (by decide)
    refine .cons (record.reads_field rfl ((reads_string name).required _ _) rfl) ?_
    refine .cons (record.reads_field rfl ((reads_string space).required _ _) rfl) ?_
    refine .cons (record.reads_field rfl ((reads_signed64 issued).optional _ _) rfl) ?_
    refine .cons (record.reads_field rfl ((reads_strings scopes).required _ _) rfl) ?_
    refine .cons (record.reads_field rfl (type_.required _ _) rfl) ?_
    refine .cons (record.reads_field rfl ((reads_string url).required _ _) rfl) ?_
    exact .nil _

namespace LinkBuilder

/-- No slash stands in the name of a provider type. -/
theorem slash_not_mem_name (t : Provider.ProviderType) : '/' ∉ t.name.toList := by
  intro among
  have fine := List.all_eq_true.mp t.all_isTypeCharacter '/' among
  exact absurd fine (by decide)

/-- The mark behind the type begins with a slash. -/
theorem marker_eq_cons : ∃ rest, marker = '/' :: rest :=
  ⟨marker.tail, by decide +kernel⟩

/-- Who built a link tells its contents again. -/
theorem published?_link (b : LinkBuilder) (s : LinkState) : b.published? (b.link s) = some s := by
  obtain ⟨rest, marks⟩ := marker_eq_cons
  have text : b.link s = b.base ++ (['/'] ++
      (s.providerType.name.toList ++ '/' :: rest ++ b.key.sign s.toValue)) := by
    simp [link, marks]
  have parts := cut?_append rest (b.key.sign s.toValue) (slash_not_mem_name s.providerType)
  have read := SigningKey.decode_sign b.key (LinkState.reads_toValue s)
  rw [published?, text, after?_append]
  simp only [after?_append, marks, parts, read, Option.bind_eq_bind, Option.bind_some, if_true]

end LinkBuilder

end OAuth

end TokenSteward
