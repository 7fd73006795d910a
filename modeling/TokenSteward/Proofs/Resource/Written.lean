import TokenSteward.Proofs.Resource.Times
import TokenSteward.Provider.Failure
import TokenSteward.Resource.Binding
import TokenSteward.Resource.DataUpdate
import TokenSteward.Secret.Mapping

/-! # Written resources are read back

Every object, secret record, mapping and provider failure is read back from its text. A field that is
left out of the text stands for what the blank object has there, and it is left out only then.
-/

namespace TokenSteward

open TokenSteward.Json TokenSteward.Json.Reader TokenSteward.Resource TokenSteward.Secret
open TokenSteward.Provider

/-! ## Tables -/

namespace Table

variable {κ ν : Type} [Ordered κ]

theorem eq_of_entries {t u : Table κ ν} (same : t.entries = u.entries) : t = u := by
  cases t
  cases u
  cases same
  rfl

theorem insertEntry_last {k : κ} {v : ν} {entries : List (κ × ν)}
    (behind : ∀ e ∈ entries, before e.1 k = true) : insertEntry k v entries = entries ++ [(k, v)] := by
  induction entries with
  | nil => rfl
  | cons e entries ih =>
    obtain ⟨first, later⟩ := List.forall_mem_cons.mp behind
    simp only [insertEntry, first, if_true, ih later, List.cons_append]

/-- Entries that come in order are put behind those of a table. -/
theorem entries_foldl_insert (more : List (κ × ν)) (t : Table κ ν)
    (ordered : Ascending (t.entries ++ more)) :
    (more.foldl (fun t e => t.insert e.1 e.2) t).entries = t.entries ++ more := by
  induction more generalizing t with
  | nil => simp
  | cons e more ih =>
    obtain ⟨_, _, behind⟩ := List.pairwise_append.mp ordered
    have last : (t.insert e.1 e.2).entries = t.entries ++ [e] :=
      insertEntry_last fun f here => behind f here e List.mem_cons_self
    have rest := ih (t.insert e.1 e.2) (by simpa [last] using ordered)
    rw [last, List.append_assoc] at rest
    exact rest

/-- A table is made of its entries. -/
theorem ofList_entries (t : Table κ ν) : ofList t.entries = t := by
  have same : (ofList t.entries).entries = t.entries := entries_foldl_insert t.entries empty t.ascending
  exact eq_of_entries same

end Table

namespace Json.Reader

variable {α β : Type} {known : List (Field α)} {fs : List (String × Value)} {a b : α}

/-! ## Fields that may be left out -/

/-- A text that is left out where it is empty stands for the empty one. -/
theorem Written.text {name t : String} {set : String → α → α} (same : set "" a = a)
    (later : Written known fs (set t a) b) :
    Written (optional name string set :: known) (textField name t ++ fs) a b := by
  unfold textField
  split
  · next none =>
    rw [String.isEmpty_iff.mp none, same] at later
    exact .skip rfl later
  · exact .cons ((reads_string t).optional name set) later

/-- A value that is left out where it is missing stands for none. -/
theorem Written.value {name : String} {r : Reader β} {write : β → Value} {found : Option β}
    {set : Option β → α → α} (same : set none a = a) (reads : ∀ c, r.Reads (write c) c)
    (opens : ∀ c, Opens (write c)) (later : Written known fs (set found a) b) :
    Written (optional name (option r) set :: known) (valueField name write found ++ fs) a b := by
  cases found with
  | none =>
    rw [same] at later
    exact .skip rfl later
  | some c => exact .cons ((reads_option_some (reads c) (opens c)).optional name set) later

end Json.Reader

namespace Resource

/-! ## What all objects have -/

theorem Access.reads_text (a : Access) : reader.Reads (.string a.text) a := by
  cases a <;> exact reads_names rfl

theorem Area.reads_text (a : Area) : reader.Reads (.string a.text) a := by
  cases a <;> exact reads_names rfl

theorem Permission.reads_toValue (p : Permission) : reader.Reads p.toValue p := by
  refine reads_written (.cons (p.access.reads_text.required _ _) ?_) (by decide)
  exact .cons (p.area.reads_text.required _ _) (.nil _)

theorem Permissions.reads_toValue (p : Permissions) : reader.Reads p.toValue p := by
  have all := reads_items Permission.toValue p.required Permission.reads_toValue fun q => .object _
  refine reads_written (.cons (all.optional _ _) ?_) (by decide)
  exact .cons ((reads_strings p.additionalScopes).optional _ _) (.nil _)

theorem Metadata.reads_labelsValue (labels : Labels) :
    labelsReader.Reads (labelsValue labels) labels := by
  have read := (reads_pairs Value.string labels.entries reads_string).map Table.ofList
  rwa [Table.ofList_entries] at read

theorem Metadata.reads_timeValue (t : Option Timestamp) :
    (option Timestamp.reader).Reads (timeValue t) t :=
  reads_option Timestamp.toValue Timestamp.reads_toValue (fun _ => .array _) t

/-- Metadata are read back if their version is a number of sixty-four bits. -/
theorem Metadata.reads_toValue (m : Metadata) (fits : m.version ≤ maxWord) :
    reader.Reads m.toValue m := by
  have version : (UInt64.ofNat m.version).toNat = m.version :=
    UInt64.toNat_ofNat_of_lt (Nat.lt_of_le_of_lt fits (by decide))
  refine reads_written (b := m) (.cons ((reads_string m.name).optional _ _) ?_) (by decide)
  refine .cons ((reads_string m.generateName).optional _ _) ?_
  refine .cons ((reads_string m.space).optional _ _) ?_
  refine .cons ((reads_string m.uid).optional _ _) ?_
  refine .cons ((reads_word64 fits).optional _ _) ?_
  rw [version]
  refine .cons ((reads_timeValue m.created).optional _ _) ?_
  refine .cons ((reads_timeValue m.deleted).optional _ _) ?_
  refine .cons ((reads_labelsValue m.labels).optional _ _) ?_
  exact .cons ((reads_strings m.guards).optional _ _) (.nil _)

/-- An object is read back if its parts are. -/
theorem Object.reads_toValue {σ τ : Type} {label : String} {blank : Object σ τ} {spec : Reader σ}
    {status : Reader τ} {writeSpec : σ → Value} {writeStatus : τ → Value}
    (specs : ∀ s, spec.Reads (writeSpec s) s) (statuses : ∀ s, status.Reads (writeStatus s) s)
    (o : Object σ τ) (fits : o.metadata.version ≤ maxWord) :
    (reader label blank spec status).Reads (toValue writeSpec writeStatus o) o := by
  have once : ["metadata", "spec", "status"].Nodup := by decide
  refine reads_written (.cons ((o.metadata.reads_toValue fits).optional _ _) ?_) once
  exact .cons ((specs o.spec).optional _ _) (.cons ((statuses o.status).optional _ _) (.nil _))

/-! ## Tokens -/

theorem TokenPhase.reads_text (p : TokenPhase) : reader.Reads (.string p.text) p := by
  cases p <;> exact reads_names rfl

theorem TokenReason.reads_text (r : TokenReason) : reader.Reads (.string r.text) r := by
  cases r <;> exact reads_names rfl

theorem Holder.reads_toValue (h : Holder) : reader.Reads h.toValue h := by
  have bytes := reads_items (fun b : UInt8 => Value.nat b.toNat) h.providerState reads_word8 fun _ => .whole _
  refine reads_written (.cons ((reads_string h.username).optional _ _) ?_) (by decide)
  refine .cons ((reads_string h.userId).optional _ _) ?_
  refine .cons ((reads_strings h.scopes).optional _ _) ?_
  exact .cons (bytes.optional _ _) (.nil _)

theorem TokenSpec.reads_toValue (s : TokenSpec) : reader.Reads s.toValue s := by
  refine reads_written (.cons ((reads_string s.providerUrl).optional _ _) ?_) (by decide)
  exact .cons (s.permissions.reads_toValue.optional _ _) (.nil _)

theorem TokenStatus.reads_toValue (s : TokenStatus) : reader.Reads s.toValue s := by
  have fields : s.toValue = .object (("phase", .string s.phase.text) ::
      (valueField "errorReason" (fun r => .string r.text) s.reason ++
        (textField "errorMessage" s.message ++ (textField "oauthUrl" s.link ++
          (valueField "tokenMetadata" Holder.toValue s.holder ++ []))))) := by
    simp [toValue]
  rw [fields]
  refine reads_written (b := s) (.cons (s.phase.reads_text.optional _ _) ?_) (by decide)
  refine .value rfl TokenReason.reads_text (fun _ => .string _) ?_
  refine .text rfl ?_
  refine .text rfl ?_
  exact .value rfl Holder.reads_toValue (fun _ => .object _) (.nil _)

theorem AccessToken.reads_toValue (t : AccessToken) (fits : t.metadata.version ≤ maxWord) :
    reader.Reads t.toValue t :=
  Object.reads_toValue TokenSpec.reads_toValue TokenStatus.reads_toValue t fits

/-! ## Bindings -/

theorem BindingPhase.reads_text (p : BindingPhase) : reader.Reads (.string p.text) p := by
  cases p <;> exact reads_names rfl

theorem BindingReason.reads_text (r : BindingReason) : reader.Reads (.string r.text) r := by
  cases r <;> exact reads_names rfl

theorem BindingSpec.reads_toValue (s : BindingSpec) : reader.Reads s.toValue s := by
  refine reads_written (.cons ((reads_string s.repoUrl).optional _ _) ?_) (by decide)
  exact .cons (s.permissions.reads_toValue.optional _ _) (.nil _)

theorem BindingStatus.reads_toValue (s : BindingStatus) : reader.Reads s.toValue s := by
  have fields : s.toValue = .object (("phase", .string s.phase.text) ::
      (valueField "errorReason" (fun r => .string r.text) s.reason ++
        (textField "errorMessage" s.message ++ (textField "linkedAccessTokenName" s.linkedToken ++
          [])))) := by
    simp [toValue]
  rw [fields]
  refine reads_written (b := s) (.cons (s.phase.reads_text.optional _ _) ?_) (by decide)
  refine .value rfl BindingReason.reads_text (fun _ => .string _) ?_
  exact .text rfl (.text rfl (.nil _))

theorem Binding.reads_toValue (b : Binding) (fits : b.metadata.version ≤ maxWord) :
    reader.Reads b.toValue b :=
  Object.reads_toValue BindingSpec.reads_toValue BindingStatus.reads_toValue b fits

/-! ## Data updates -/

theorem DataUpdateSpec.reads_toValue (s : DataUpdateSpec) : reader.Reads s.toValue s :=
  reads_written (.cons ((reads_string s.tokenName).required _ _) (.nil _)) (by decide)

theorem DataUpdate.reads_toValue (u : DataUpdate) (fits : u.metadata.version ≤ maxWord) :
    reader.Reads u.toValue u := by
  refine reads_written (.cons ((u.metadata.reads_toValue fits).optional _ _) ?_) (by decide)
  exact .cons (u.spec.reads_toValue.required _ _) (.nil _)

end Resource

/-! ## Secrets and failures -/

theorem Secret.Record.reads_toValue (r : Record) : Record.reader.Reads r.toValue r := by
  have expiry : UInt64.ofNat r.expiry.toNat = r.expiry := UInt64.ofNat_toNat
  have number := reads_word64 (Nat.le_of_lt_succ r.expiry.toNat_lt)
  rw [expiry] at number
  have credential := (reads_string r.credential.exposed).map Credential.mk
  refine reads_written (.cons (credential.optional _ _) ?_) (by decide)
  refine .cons ((reads_string r.username).optional _ _) ?_
  exact .cons (number.optional _ _) (.nil _)

theorem Secret.Mapping.reads_toValue (m : Mapping) : Mapping.reader.Reads m.toValue m := by
  have number (e : UInt64) : word64.Reads (.nat e.toNat) e := by
    have read := reads_word64 (Nat.le_of_lt_succ e.toNat_lt)
    rwa [UInt64.ofNat_toNat] at read
  refine reads_written (.cons ((reads_string m.token).optional _ _) ?_) (by decide)
  refine .cons ((reads_string m.name).optional _ _) ?_
  refine .cons ((reads_strings m.scopes).optional _ _) ?_
  refine .cons ((reads_string m.providerUrl).optional _ _) ?_
  refine .cons ((reads_string m.providerUserName).optional _ _) ?_
  refine .cons ((reads_string m.providerUserId).optional _ _) ?_
  refine .cons ((reads_string m.userId).optional _ _) ?_
  have expiry := reads_option (fun e : UInt64 => Value.nat e.toNat) number (fun _ => .whole _) m.expiredAfter
  exact .cons (expiry.optional _ _) (.nil _)

theorem Provider.ProviderFailure.reads_toValue (f : ProviderFailure) :
    ProviderFailure.reader.Reads f.toValue f := by
  cases f with
  | response status body =>
    refine reads_filled rfl (Reads.map (a := (status, body)) ?_ _)
    refine reads_written (.cons ((reads_word16 status).required _ _) ?_) (by decide)
    exact .cons ((reads_string body).required _ _) (.nil _)
  | unavailable message =>
    refine reads_filled rfl (Reads.map (a := message) ?_ _)
    exact reads_written (.cons ((reads_string message).required _ _) (.nil _)) (by decide)

/-! ## Whole texts -/

/-- What is read from its value is read from the text of the value. -/
theorem Json.Reader.Reads.render {α : Type} {r : Reader α} {v : Value} {a : α} (reads : r.Reads v a) :
    r.entire (symbols v.render) = .ok a := by
  rw [symbols, Value.render, String.toList_ofList]
  exact reads.entire

/-- A field is left out of a written value. -/
def Json.Value.Omits (v : Value) (name : String) : Prop := v.field? name = none

/-- The status of a token leaves out what is missing or empty, and nothing else. -/
theorem Resource.TokenStatus.omits_iff (s : TokenStatus) :
    (s.toValue.Omits "errorReason" ↔ s.reason = none) ∧
      (s.toValue.Omits "errorMessage" ↔ s.message = "") ∧ (s.toValue.Omits "oauthUrl" ↔ s.link = "") ∧
      (s.toValue.Omits "tokenMetadata" ↔ s.holder = none) := by
  obtain ⟨phase, reason, message, link, holder⟩ := s
  by_cases silent : message = "" <;> by_cases unlinked : link = "" <;> cases reason <;> cases holder <;>
    simp [TokenStatus.toValue, Value.Omits, Value.field?, textField, valueField, silent, unlinked]

/-- The status of a binding leaves out what is missing or empty, and nothing else. -/
theorem Resource.BindingStatus.omits_iff (s : BindingStatus) :
    (s.toValue.Omits "errorReason" ↔ s.reason = none) ∧
      (s.toValue.Omits "errorMessage" ↔ s.message = "") ∧
      (s.toValue.Omits "linkedAccessTokenName" ↔ s.linkedToken = "") := by
  obtain ⟨phase, reason, message, linked⟩ := s
  by_cases silent : message = "" <;> by_cases unlinked : linked = "" <;> cases reason <;>
    simp [BindingStatus.toValue, Value.Omits, Value.field?, textField, valueField, silent, unlinked]

theorem Resource.DataUpdate.omits_status (u : DataUpdate) : u.toValue.Omits "status" := by
  simp [DataUpdate.toValue, Value.Omits, Value.field?]

/-- Every object whose version is a number of sixty-four bits is read back from its text, and so is
every secret record, mapping and provider failure, although the texts leave out messages that are
empty, reasons and credentials' holders that are missing, and the status of a data update. -/
theorem reads_back :
    (∀ t : AccessToken, t.metadata.version ≤ maxWord →
      AccessToken.reader.entire (symbols t.toValue.render) = .ok t) ∧
    (∀ b : Binding, b.metadata.version ≤ maxWord →
      Binding.reader.entire (symbols b.toValue.render) = .ok b) ∧
    (∀ u : DataUpdate, u.metadata.version ≤ maxWord →
      DataUpdate.reader.entire (symbols u.toValue.render) = .ok u) ∧
    (∀ r : Record, Record.reader.entire (symbols r.toValue.render) = .ok r) ∧
    (∀ m : Mapping, Mapping.reader.entire (symbols m.toValue.render) = .ok m) ∧
    (∀ f : ProviderFailure, ProviderFailure.reader.entire (symbols f.toValue.render) = .ok f) ∧
    (∀ s : TokenStatus, (s.toValue.Omits "errorReason" ↔ s.reason = none) ∧
      (s.toValue.Omits "errorMessage" ↔ s.message = "") ∧ (s.toValue.Omits "oauthUrl" ↔ s.link = "") ∧
      (s.toValue.Omits "tokenMetadata" ↔ s.holder = none)) ∧
    (∀ s : BindingStatus, (s.toValue.Omits "errorReason" ↔ s.reason = none) ∧
      (s.toValue.Omits "errorMessage" ↔ s.message = "") ∧
      (s.toValue.Omits "linkedAccessTokenName" ↔ s.linkedToken = "")) ∧
    ∀ u : DataUpdate, u.toValue.Omits "status" :=
  ⟨fun t fits => (t.reads_toValue fits).render, fun b fits => (b.reads_toValue fits).render,
    fun u fits => (u.reads_toValue fits).render, fun r => r.reads_toValue.render,
    fun m => m.reads_toValue.render, fun f => f.reads_toValue.render, TokenStatus.omits_iff,
    BindingStatus.omits_iff, DataUpdate.omits_status⟩

/-- A token with the greatest version, a time with an offset to the west, and texts that need escapes. -/
def awkwardToken : AccessToken :=
  ⟨{ Metadata.named "dev" "git\n\"hub\"" with
      version := maxWord
      deleted := some ⟨⟨-1, 365, 23, 59, 59, 999999999, -25, -59, -59⟩, by decide, by decide⟩
      labels := Table.ofList [("b", "\\"), ("a", "")]
      guards := [secretGuard, secretGuard] },
    ⟨"https://git.example", ⟨[⟨.readWrite, .webhooks⟩], ["a:b"]⟩⟩,
    ⟨.ready, none, "", "", some ⟨"ada", "7", ["repo"], [0, 255]⟩⟩⟩

/-- That token is read back, although its status has no message, reason and link. -/
theorem reads_back_awkward : awkwardToken.metadata.version ≤ maxWord ∧
    AccessToken.reader.entire (symbols awkwardToken.toValue.render) = .ok awkwardToken ∧
    awkwardToken.status.toValue.Omits "errorMessage" :=
  ⟨Nat.le_refl _, reads_back.1 awkwardToken (Nat.le_refl _),
    (reads_back.2.2.2.2.2.2.1 awkwardToken.status).2.1.mpr rfl⟩

end TokenSteward
