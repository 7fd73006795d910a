import TokenSteward.Proofs.OAuth.Link
import TokenSteward.Proofs.Text.Affix

/-! # Links of different bases

A text that a key verifies is made of two segments in the alphabet for URLs, so no slash stands in it.
Behind the base of a link come the type of the provider and such a text, each after a slash, and so a
link tells under which base it was built, whatever the base looks like. Builders under different bases
take none of each other's links.
-/

namespace TokenSteward

namespace OAuth

open TokenSteward.Json TokenSteward.Text

namespace SigningKey

variable {k : SigningKey} {text : List Char}

/-- A text that a key verifies is made of its contents and of nothing else. -/
theorem eq_of_verify {contents : List UInt8} (verified : k.verify text = .ok contents) :
    text = Base64.encode Base64.urlSafe contents ++
      '.' :: k.signature (Base64.encode Base64.urlSafe contents) := by
  simp only [verify] at verified
  split at verified
  · contradiction
  · next payload signed parts =>
    split at verified
    · contradiction
    · next digest read =>
      split at verified
      · contradiction
      · next genuine =>
        split at verified
        · contradiction
        · next read' =>
          obtain rfl := Except.ok.inj verified
          have whole := eq_of_cut? parts
          obtain rfl := Base64.eq_encode_of_decode read
          obtain rfl := Base64.eq_encode_of_decode read'
          rw [whole, signature, Decidable.not_not.mp genuine]
          simp

/-- No slash stands in a text from which a value is read. -/
theorem slash_not_mem_of_decode {α : Type} {r : Reader α} {a : α} (read : k.decode r text = .ok a) :
    '/' ∉ text := by
  simp only [decode, Bind.bind, Except.bind] at read
  split at read
  · contradiction
  · next contents verified =>
    rw [eq_of_verify verified, List.mem_append, List.mem_cons, not_or, not_or]
    exact ⟨Base64.slash_not_mem_encode _, by decide, Base64.slash_not_mem_encode _⟩

end SigningKey

namespace LinkBuilder

variable {b c : LinkBuilder} {url : List Char} {s t : LinkState}

/-- The mark behind the type is a slash and a text without one. -/
theorem marker_eq : marker = '/' :: marker.tail ∧ '/' ∉ marker.tail := by decide +kernel

/-- A link that tells contents consists of the base, the type, and a text without slashes. -/
theorem eq_of_published (told : b.published? url = some s) :
    ∃ back, '/' ∉ back ∧ url = (b.base ++ '/' :: s.providerType.name.toList) ++ '/' :: back := by
  simp only [published?, Option.bind_eq_bind, Option.bind_eq_some_iff] at told
  obtain ⟨path, under, rest, slash, ⟨type, signed⟩, parts, told⟩ := told
  split at told
  · next read =>
    split at told
    · next same =>
      obtain rfl := Option.some.inj told
      have unslashed := SigningKey.slash_not_mem_of_decode read
      obtain ⟨mark, clear⟩ := marker_eq
      refine ⟨marker.tail ++ signed, by simp [clear, unslashed], ?_⟩
      rw [eq_append_of_after? under, eq_append_of_after? slash, eq_of_cut? parts, same, mark]
      simp
    · contradiction
  · contradiction

/-- A link tells contents under one base only, and of one type. -/
theorem base_eq_of_published (told : b.published? url = some s) (told' : c.published? url = some t) :
    b.base = c.base ∧ s.providerType.name = t.providerType.name := by
  obtain ⟨back, clear, whole⟩ := eq_of_published told
  obtain ⟨back', clear', whole'⟩ := eq_of_published told'
  obtain ⟨fronts, -⟩ := eq_of_last_mark clear clear' (whole.symm.trans whole')
  obtain ⟨bases, types⟩ :=
    eq_of_last_mark (slash_not_mem_name s.providerType) (slash_not_mem_name t.providerType) fronts
  exact ⟨bases, String.toList_injective types⟩

/-- Under another base nothing is told by a link, whatever the keys are. -/
theorem published?_link_of_ne (apart : c.base ≠ b.base) (s : LinkState) :
    c.published? (b.link s) = none := by
  cases told : c.published? (b.link s) with
  | none => rfl
  | some t => exact absurd (base_eq_of_published told (b.published?_link s)).1 apart

/-- Any 32 bytes or more make a key. Contents that are signed with it are read back, who built a link
tells its contents again, and no builder tells them under a base that differs in more than slashes at
its end. -/
theorem told_under_own_base (bytes : List UInt8) (enough : 32 ≤ bytes.length) (url : List Char)
    (s : LinkState) : ∃ k, SigningKey.ofBytes bytes = .ok k ∧
      k.decodeState (String.ofList (k.sign s.toValue)) = .ok s ∧
      (ofUrl url k).published? ((ofUrl url k).link s) = some s ∧
      ∀ other, trimEnd '/' other ≠ trimEnd '/' url →
        (ofUrl other k).published? ((ofUrl url k).link s) = none := by
  refine ⟨⟨bytes, enough⟩, dif_pos enough, ?_, published?_link _ s, fun other apart => ?_⟩
  · rw [SigningKey.decodeState, String.toList_ofList]
    exact SigningKey.decode_sign _ (LinkState.reads_toValue s)
  · exact published?_link_of_ne apart s

/-- Contents without an issue time, with texts that have to be escaped. -/
def quotedState : LinkState :=
  ⟨"git \"main\"", "dev", 0, ["read:\u00e9\n"], default, "https://git.example"⟩

/-- A base that looks like a link itself. -/
def nestedBase : List Char := "https://o.example/x/authenticate?state=a.b/".toList

/-- A link under that base tells its contents there, and nothing under the base that it begins with. -/
theorem told_under_own_base_nested :
    32 ≤ (List.replicate 32 (7 : UInt8)).length ∧
      trimEnd '/' "https://o.example/".toList ≠ trimEnd '/' nestedBase ∧
      ∃ k, SigningKey.ofBytes (List.replicate 32 7) = .ok k ∧
        (ofUrl nestedBase k).published? ((ofUrl nestedBase k).link quotedState) = some quotedState ∧
        (ofUrl "https://o.example/".toList k).published?
          ((ofUrl nestedBase k).link quotedState) = none := by
  have enough : 32 ≤ (List.replicate 32 (7 : UInt8)).length := by decide
  have apart : trimEnd '/' "https://o.example/".toList ≠ trimEnd '/' nestedBase := by
    decide +kernel
  obtain ⟨k, made, -, told, separate⟩ :=
    told_under_own_base (List.replicate 32 7) enough nestedBase quotedState
  exact ⟨enough, apart, k, made, told, separate _ apart⟩

end LinkBuilder

end OAuth

end TokenSteward
