import TokenSteward.Failure
import TokenSteward.OAuth.Link
import TokenSteward.Time.Span
import TokenSteward.Url.Parser

/-! # The operator's settings

Settings are read from a text, every one with a default, and checked before they are used. Lengths
of time are kept in whole seconds, the first delay in whole milliseconds, and change to spans and
back by cutting off what is finer.
-/

namespace TokenSteward

open TokenSteward.Json TokenSteward.Text TokenSteward.Time TokenSteward.OAuth TokenSteward.Url

/-- Where links lead and how they are signed (`OAuthConfig`). -/
structure LinkSettings where
  baseUrl : Url
  stateKey : String
deriving DecidableEq

namespace LinkSettings

/-- Settings to start reading from. -/
def blank : LinkSettings := ⟨⟨[], none, .opaqueText [], none, none⟩, ""⟩

/-- What a log shows of link settings. -/
def describe (s : LinkSettings) : String :=
  recordText "OAuthConfig" [("base_url", quoted s.baseUrl.render), ("state_key", quoted redacted)]

/-- The written form of link settings. -/
def toValue (s : LinkSettings) : Value :=
  .object [("baseUrl", .string s.baseUrl.render), ("stateKey", .string s.stateKey)]

/-- Reads link settings. -/
def reader : Reader LinkSettings :=
  Reader.record "struct OAuthConfig" blank [
    Reader.required "baseUrl" Url.reader fun u s => { s with baseUrl := u },
    Reader.required "stateKey" Reader.string fun k s => { s with stateKey := k }]

end LinkSettings

/-- How a controller works (`ControllerSettings`): how many workers it has and how long things take. The
deadline is the `reconcile_timeout`. -/
structure Tuning where
  workers : Nat
  resyncPeriod : Span
  deadline : Span
  backoffBase : Span
  backoffMax : Span
deriving DecidableEq, Repr, Inhabited

namespace Tuning

/-- The tuning of a controller that was given none. -/
def standard : Tuning := ⟨4, .seconds 300, .seconds 30, .millis 100, .seconds 300⟩

/-- What a log shows of a tuning. -/
def describe (t : Tuning) : String :=
  recordText "ControllerSettings" [("workers", Number.natText t.workers),
    ("resync_period", t.resyncPeriod.text), ("reconcile_timeout", t.deadline.text),
    ("backoff_base", t.backoffBase.text), ("backoff_max", t.backoffMax.text)]

end Tuning

/-- The operator's settings (`OperatorConfig`). -/
structure Settings where
  workers : UInt64
  resyncPeriodSecs : UInt64
  deadlineSecs : UInt64
  backoffBaseMillis : UInt64
  backoffMaxSecs : UInt64
  recheckSecs : UInt64
  links : Option LinkSettings
deriving DecidableEq

namespace Settings

/-- The settings of an operator that was given none. -/
def standard : Settings := ⟨4, 300, 30, 100, 300, 5, none⟩

/-- The written form of settings. -/
def toValue (s : Settings) : Value :=
  .object <| [("workers", .nat s.workers.toNat),
      ("resyncPeriodSecs", .nat s.resyncPeriodSecs.toNat),
      ("reconcileTimeoutSecs", .nat s.deadlineSecs.toNat),
      ("backoffBaseMillis", .nat s.backoffBaseMillis.toNat),
      ("backoffMaxSecs", .nat s.backoffMaxSecs.toNat),
      ("linkedBindingsRecheckSecs", .nat s.recheckSecs.toNat)]
    ++ (s.links.map fun l => ("oauth", l.toValue)).toList

/-- Reads settings that are still to be checked. -/
def reader : Reader Settings :=
  Reader.record "struct OperatorConfig" standard [
    Reader.optional "workers" (Reader.word "usize") fun n s => { s with workers := n },
    Reader.optional "resyncPeriodSecs" Reader.word64 fun n s => { s with resyncPeriodSecs := n },
    Reader.optional "reconcileTimeoutSecs" Reader.word64 fun n s => { s with deadlineSecs := n },
    Reader.optional "backoffBaseMillis" Reader.word64
      fun n s => { s with backoffBaseMillis := n },
    Reader.optional "backoffMaxSecs" Reader.word64 fun n s => { s with backoffMaxSecs := n },
    Reader.optional "linkedBindingsRecheckSecs" Reader.word64
      fun n s => { s with recheckSecs := n },
    Reader.optional "oauth" (Reader.option LinkSettings.reader) fun l s => { s with links := l }]

/-- The settings that must not be zero, with their names. -/
def positives (s : Settings) : List (String × UInt64) :=
  [("workers", s.workers), ("resyncPeriodSecs", s.resyncPeriodSecs),
    ("reconcileTimeoutSecs", s.deadlineSecs), ("backoffBaseMillis", s.backoffBaseMillis),
    ("backoffMaxSecs", s.backoffMaxSecs), ("linkedBindingsRecheckSecs", s.recheckSecs)]

/-- The key of a text, or what is wrong with it as a setting. -/
def signingKey (text : String) : Except SettingsFault SigningKey :=
  match SigningKey.ofText text with
  | .ok key => .ok key
  | .error fault => .error (.ofKeyFault fault)

/-- Checks link settings. -/
def validateLinks (l : LinkSettings) : Except SettingsFault Unit :=
  if !l.baseUrl.isBase then
    .error (.parse "oauth.baseUrl" (marked l.baseUrl.render ++ " cannot be used as a base URL"))
  else (signingKey l.stateKey).map fun _ => ()

/-- Checks every setting. -/
def validate (s : Settings) : Except SettingsFault Unit :=
  match s.positives.find? (·.2 == 0) with
  | some (name, _) => .error (.nonPositive name)
  | none =>
    match s.links with
    | some l => validateLinks l
    | none => .ok ()

/-- Reads settings from the front of a text and checks them (`from_json`). -/
def ofText (text : String) : Except SettingsFault Settings :=
  match reader.front (symbols text) with
  | .error fault => .error (.parse fault.place fault.message)
  | .ok s => do
    s.validate
    .ok s

/-! ## Lengths of time -/

/-- The greatest number of seconds or milliseconds that a length of time is made from. -/
def greatestCount : Nat := Nat.pow 2 63 - 1

/-- The length of a number of seconds. -/
def secondsShift (n : UInt64) : Shift := .seconds (Nat.min n.toNat greatestCount)

/-- A whole number as a setting; what does not fit counts as zero. -/
def toSetting (n : Int) : UInt64 := if 0 ≤ n ∧ n < UInt64.size then UInt64.ofNat n.toNat else 0

/-- The time between two listings of everything. -/
def resyncPeriod (s : Settings) : Shift := secondsShift s.resyncPeriodSecs

/-- The time that one pass may take (`reconcile_timeout`). -/
def deadline (s : Settings) : Shift := secondsShift s.deadlineSecs

/-- The delay after a first failure. -/
def backoffBase (s : Settings) : Shift := .millis (Nat.min s.backoffBaseMillis.toNat greatestCount)

/-- The greatest delay after a failure. -/
def backoffMax (s : Settings) : Shift := secondsShift s.backoffMaxSecs

/-- The time after which a deletion that bindings hold back is looked at again
(`linked_bindings_recheck`). -/
def recheck (s : Settings) : Shift := secondsShift s.recheckSecs

/-- The settings with another number of workers. -/
def withWorkers (s : Settings) (n : UInt64) : Settings := { s with workers := n }

/-- The settings with another time between listings. -/
def withResyncPeriod (s : Settings) (t : Shift) : Settings :=
  { s with resyncPeriodSecs := toSetting t.wholeSeconds }

/-- The settings with another time for one pass. -/
def withDeadline (s : Settings) (t : Shift) : Settings :=
  { s with deadlineSecs := toSetting t.wholeSeconds }

/-- The settings with other delays after failures. -/
def withBackoff (s : Settings) (base max : Shift) : Settings :=
  { s with
    backoffBaseMillis := toSetting base.wholeMillis
    backoffMaxSecs := toSetting max.wholeSeconds }

/-- The settings with another time between two looks at a deletion. -/
def withRecheck (s : Settings) (t : Shift) : Settings :=
  { s with recheckSecs := toSetting t.wholeSeconds }

/-- The settings with links under a URL. -/
def withLinks (s : Settings) (baseUrl : Url) (stateKey : String) : Settings :=
  { s with links := some ⟨baseUrl, stateKey⟩ }

/-- The tuning of the controllers (`controller_settings`). -/
def tuning (s : Settings) : Tuning :=
  ⟨s.workers.toNat, s.resyncPeriod.span, s.deadline.span, s.backoffBase.span, s.backoffMax.span⟩

/-- The builder of links, if there are to be links (`oauth_url_builder`). -/
def linkBuilder? (s : Settings) : Except SettingsFault (Option LinkBuilder) :=
  match s.links with
  | none => .ok none
  | some l => do
    let key ← signingKey l.stateKey
    .ok (some (LinkBuilder.ofUrl l.baseUrl.text key))

end Settings

end TokenSteward
