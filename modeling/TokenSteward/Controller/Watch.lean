import TokenSteward.Cluster.Basic
import TokenSteward.Pass.Basic

/-! # From changes to keys

A controller follows stores and looks at the keys that their changes concern. A mapper says which
keys those are; it may have to ask for them. Who has missed changes lists the objects that are
there and takes each as changed.
-/

namespace TokenSteward.Controller

open TokenSteward.Cluster TokenSteward.Resource

/-- The store of a kind of object. -/
inductive Source where
  | tokens
  | bindings
  | updates
deriving DecidableEq, Repr

/-- A change in one of the stores. -/
inductive Change where
  | token (e : Event TokenSpec TokenStatus)
  | binding (e : Event BindingSpec BindingStatus)
  | update (e : Event DataUpdateSpec Unit)

/-- The key of the object that a change is about. -/
def Change.key : Change → Key
  | .token e => e.object.key
  | .binding e => e.object.key
  | .update e => e.object.key

namespace Source

/-- A request that lists some objects of a store. -/
inductive Lists : Request → Prop where
  | tokens (space : Option String) (wanted : Selector) : Lists (.tokens (.list space wanted))
  | bindings (space : Option String) (wanted : Selector) : Lists (.bindings (.list space wanted))
  | updates (space : Option String) (wanted : Selector) : Lists (.updates (.list space wanted))

end Source

/-- A pass that has some keys at once, or after one listing, whatever is answered to that. -/
inductive Brief : Pass (List Key) → Prop where
  | atOnce (keys : List Key) : Brief (.done keys)
  | listing {r : Request} {next : r.Answer → Pass (List Key)} (lists : Source.Lists r)
      (knows : ∀ answer, ∃ keys, next answer = .done keys) : Brief (.ask r next)

/-- Which keys a change concerns: the object's own, or those that a brief pass tells. It is the `mapper` of
a `watch_loop`. -/
inductive Mapper where
  | own
  | asking (keys : Change → Pass (List Key)) (brief : ∀ e, Brief (keys e))

/-- The keys that a change concerns. -/
def Mapper.keys : Mapper → Change → Pass (List Key)
  | .own, change => pure [change.key]
  | .asking keys _, change => keys change

theorem Mapper.brief_keys (m : Mapper) (change : Change) : Brief (m.keys change) := by
  cases m with
  | own => exact .atOnce _
  | asking keys brief => exact brief change

instance (m : Mapper) : Decidable (m = .own) :=
  match m with
  | .own => .isTrue rfl
  | .asking _ _ => .isFalse fun same => by cases same

/-- A removed binding concerns the token that it was linked to (`released_token`). -/
def releasedKeys : Change → Pass (List Key)
  | .binding (.deleted b) => .done (Binding.linkedKey? b).toList
  | _ => .done []

/-- A binding concerns the token that it is linked to. -/
def linkedTokenKeys : Change → Pass (List Key)
  | .binding e => .done (Binding.linkedKey? e.object).toList
  | _ => .done []

/-- The keys of the bindings that are linked to a token (`linked_binding_keys`); none if they cannot be
listed. -/
def dependentKeys (token : Key) : Pass (List Key) := do
  match ← Pass.attempt (.bindings
    (.list (some token.space) (Selector.only linkLabel token.name))) with
  | .ok found => pure (found.map Object.key)
  | .error _ => pure []

/-- A token concerns the bindings that are linked to it. -/
def dependentsKeys : Change → Pass (List Key)
  | .token e => dependentKeys e.object.key
  | _ => .done []

namespace Mapper

/-- From removed bindings to tokens. -/
def released : Mapper := .asking releasedKeys fun e => by
  unfold releasedKeys
  split <;> exact .atOnce _

/-- From bindings to tokens. -/
def linkedToken : Mapper := .asking linkedTokenKeys fun e => by
  unfold linkedTokenKeys
  split <;> exact .atOnce _

/-- From tokens to bindings. -/
def dependents : Mapper := .asking dependentsKeys fun e => by
  unfold dependentsKeys
  split
  · refine .listing (.bindings _ _) fun answer => ?_
    cases answer with
    | ok found => exact ⟨_, rfl⟩
    | error f => exact ⟨_, rfl⟩
  · exact .atOnce _

end Mapper

/-- A store that is followed (`watches`), and the keys that its changes concern. -/
structure Watch where
  source : Source
  mapper : Mapper

/-- The objects of a store, each taken as changed; nothing if they cannot be listed. -/
def Source.listing : Source → Pass (List Change)
  | .tokens => do
    match ← Pass.attempt (.tokens (.list none Selector.everything)) with
    | .ok found => pure (found.map fun o => .token (.applied o))
    | .error _ => pure []
  | .bindings => do
    match ← Pass.attempt (.bindings (.list none Selector.everything)) with
    | .ok found => pure (found.map fun o => .binding (.applied o))
    | .error _ => pure []
  | .updates => do
    match ← Pass.attempt (.updates (.list none Selector.everything)) with
    | .ok found => pure (found.map fun o => .update (.applied o))
    | .error _ => pure []

/-- The keys that some changes concern, in their order. -/
def Mapper.allKeys (m : Mapper) : List Change → Pass (List Key)
  | [] => pure []
  | change :: rest => do
    let first ← m.keys change
    let more ← m.allKeys rest
    pure (first ++ more)

/-- The keys that a watch looks at after changes were missed. -/
def Watch.relist (w : Watch) : Pass (List Key) := do
  let changes ← w.source.listing
  w.mapper.allKeys changes

/-- The keys of all objects of a store. -/
def Source.allKeys (s : Source) : Pass (List Key) := do
  let changes ← s.listing
  pure (changes.map Change.key)

/-- The number of changes of a store so far. -/
def Source.published (s : Source) (c : Cluster) : Nat :=
  match s with
  | .tokens => c.tokens.published
  | .bindings => c.bindings.published
  | .updates => c.updates.published

/-- What a watch does next. -/
inductive Sighting where
  | change (c : Change)
  | missed
  | nothing

/-- What a follower of a store sees next who has seen a number of changes. -/
def Source.follow (s : Source) (c : Cluster) (seen : Nat) : Sighting × Nat :=
  match s with
  | .tokens =>
    match c.tokens.follow seen with
    | (.change e, seen) => (.change (.token e), seen)
    | (.missed _, seen) => (.missed, seen)
    | (.nothing, seen) => (.nothing, seen)
  | .bindings =>
    match c.bindings.follow seen with
    | (.change e, seen) => (.change (.binding e), seen)
    | (.missed _, seen) => (.missed, seen)
    | (.nothing, seen) => (.nothing, seen)
  | .updates =>
    match c.updates.follow seen with
    | (.change e, seen) => (.change (.update e), seen)
    | (.missed _, seen) => (.missed, seen)
    | (.nothing, seen) => (.nothing, seen)

end TokenSteward.Controller
