import TokenSteward.Json.Lookup
import TokenSteward.Rehearsal.Behaviour
import TokenSteward.Rehearsal.Fault
import TokenSteward.Rehearsal.Script
import TokenSteward.Rehearsal.Stub

/-! # Written instructions

Faults, the behaviour of providers and scripts in their written forms. Each is an object; what it
does not say, or says to be null, is as if nothing had been arranged.
-/

namespace TokenSteward.Rehearsal

open TokenSteward.Json TokenSteward.Resource TokenSteward.Provider TokenSteward.Controller
open TokenSteward.Text TokenSteward.Time

/-- The method of a store with a name. -/
def StoreMethod.ofName : String → StoreMethod
  | "get" => .get
  | "list" => .list
  | "create" => .create
  | "update" => .update
  | "updateStatus" => .updateStatus
  | _ => .delete

/-- The method of a vault with a name. -/
def VaultMethod.ofName : String → VaultMethod
  | "store" => .store
  | "get" => .get
  | _ => .delete

/-- A fault of a store. -/
def StoreFault.ofValue : Value → StoreFault
  | .string "touch" => .touch
  | .string _ => .remove
  | v =>
    match (v.field "unavailable").text? with
    | some message => .unavailable message
    | none =>
      let versions := v.field "conflict"
      .conflict (versions.item 0).natOf (versions.item 1).natOf

/-- A failure of a provider: that it is out of reach, or a response. -/
def failureOfValue (v : Value) : ProviderFailure :=
  match (v.field "unavailable").text? with
  | some message => .unavailable message
  | none => .ofResponse (UInt16.ofNat (v.field "status").natOf) (v.textAt "body")

/-- The type with a name. -/
def typeOfName (name : String) : ProviderType :=
  match ProviderType.ofName name with
  | .ok t => t
  | .error _ => default

/-- The name of the type of a stand-in of which no type is said. -/
def usualType : String := "github"

/-- A stand-in for a provider. -/
def stubOfValue (v : Value) : Service :=
  stub (typeOfName ((v.field "type").text?.getD usualType))
    ((v.field "baseUrl").text?.getD "https://github.com")
    (Table.ofList ((v.field "scopes").fields.map fun f => (f.1, f.2.items.map Value.textOf)))

/-- A key by its parts. -/
def keyOfValue (v : Value) : Key := ⟨v.textAt "namespace", v.textAt "name"⟩

/-- What a stand-in is to say of credentials. -/
def Verdict.ofValue (v : Value) : Verdict :=
  match v.said? "fail" with
  | some f => .fail (failureOfValue f)
  | none => .findings (v.textsAt "errors")

/-- What a stand-in is to find. A key comes before a failure, and a failure before an object. -/
def Find.ofValue (v : Value) : Find :=
  match v.said? "token", v.said? "fail", v.said? "object" with
  | some k, _, _ => .stored (keyOfValue k)
  | none, some f, _ => .fail (failureOfValue f)
  | none, none, some o => .own (o.readAs AccessToken.reader AccessToken.blank)
  | none, none, none => .nothing

/-- What a stand-in is to tell of holders. -/
def Telling.ofValue (v : Value) : Telling :=
  match v.said? "fail", v.said? "metadata" with
  | some f, _ => .fail (failureOfValue f)
  | none, some h => .own (h.readAs Holder.reader Holder.unknown)
  | none, none => .username

/-- A behaviour with what is said of it replaced. -/
def Behaviour.revised (b : Behaviour) (v : Value) : Behaviour :=
  ⟨((v.field? "validate").map Verdict.ofValue).getD b.verdict,
    ((v.field? "lookup").map Find.ofValue).getD b.find,
    ((v.field? "persist").map Telling.ofValue).getD b.telling⟩

/-- The failure that a cue names. -/
def cueFailure (key : Key) : String → Failure
  | "cluster" => .store (.unavailable "")
  | "storage" => .vault (.backend "")
  | "deadline" => .deadline key.text
  | "state" => .state .mismatch
  | "config" => .settings .keyEncoding
  | _ => .cancelled key.text

/-- How a scripted pass is to end: asking to be looked at again, with a failure, or well. -/
def endingOfValue (key : Key) (v : Value) : Except Failure Action :=
  match (v.field "requeueMs").nat?, (v.field "fail").text?, v.field "provider" with
  | some ms, _, _ => .ok (.requeue (.millis ms))
  | none, some name, _ => .error (cueFailure key name)
  | none, none, .null => .ok .await
  | none, none, f => .error (.provider (failureOfValue f))

/-- A cue. -/
def Cue.ofValue (key : Key) (v : Value) : Cue :=
  ⟨(v.field "sleepMs").nat?.map Span.millis, endingOfValue key v⟩

/-- The key with a text. -/
def keyOfText (s : String) : Key :=
  match cut? ['/'] s.toList with
  | some (space, name) => ⟨String.ofList space, String.ofList name⟩
  | none => ⟨"", s⟩

/-- A script: the cues by the texts of the keys. -/
def Script.ofValue (v : Value) : Script :=
  Table.ofList (v.fields.map fun f =>
    let key := keyOfText f.1
    (key, f.2.items.map (Cue.ofValue key)))

end TokenSteward.Rehearsal
