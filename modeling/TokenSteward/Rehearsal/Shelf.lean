import TokenSteward.Json.Lookup
import TokenSteward.Rehearsal.Listing
import TokenSteward.Rehearsal.World

/-! # Shelves

A shelf says how the objects of one kind are stored, read and written, so that what is done with a
store is said once for all kinds. Objects are shown without what differs from one run to the next:
the present is not told, and a link issued at present is taken apart.
-/

namespace TokenSteward.Rehearsal

open TokenSteward.Cluster TokenSteward.Resource TokenSteward.Controller TokenSteward.Json
open TokenSteward.Text

/-- One kind of object: its store, how the store is asked, and how objects are read and written. -/
structure Shelf (σ τ : Type) where
  source : Source
  request : StoreRequest σ τ → Request
  answer : (r : StoreRequest σ τ) → (request r).Answer → Except StoreFailure r.Result
  store : Cluster → Store σ τ
  reader : Reader (Object σ τ)
  toValue : Object σ τ → Value
  blank : Object σ τ

/-- The tokens. -/
def tokenShelf : Shelf TokenSpec TokenStatus :=
  ⟨.tokens, .tokens, fun _ a => a, Cluster.tokens, AccessToken.reader, AccessToken.toValue,
    AccessToken.blank⟩

/-- The bindings. -/
def bindingShelf : Shelf BindingSpec BindingStatus :=
  ⟨.bindings, .bindings, fun _ a => a, Cluster.bindings, Binding.reader, Binding.toValue,
    Binding.blank⟩

/-- The data updates. -/
def updateShelf : Shelf DataUpdateSpec Unit :=
  ⟨.updates, .updates, fun _ a => a, Cluster.updates, DataUpdate.reader, DataUpdate.toValue,
    DataUpdate.blank⟩

/-! ## What is shown -/

/-- What is shown in the place of the present. -/
def presentMark : Value := .string "<now>"

namespace World

/-- A time, where the present is not told. -/
def timeShown (w : World) (t : Option Timestamp) : Value :=
  if t = some w.cluster.now then presentMark else Metadata.timeValue t

/-- A link, taken apart if it was issued at present. -/
def linkShown (w : World) (url : String) : Value :=
  match w.shownBy.bind fun b => b.published? url.toList with
  | none => .string url
  | some s =>
    if s.issuedAt = w.cluster.clock then
      let base := ((cut? "?state=".toList url.toList).map (·.1)).getD url.toList
      .object [("base", .string (String.ofList base)),
        ("state", .object (setField "issuedAt" presentMark s.toValue.fields))]
    else .string url

/-- A field of an object, changed if it is there. -/
def withField (name : String) (change : Value → Value) (v : Value) : Value :=
  match v, v.field? name with
  | .object fields, some part => .object (setField name (change part) fields)
  | _, _ => v

/-- An object as it is shown. -/
def shown {σ τ : Type} (w : World) (shelf : Shelf σ τ) (o : Object σ τ) : Value :=
  let times (m : Value) : Value :=
    withField "creationTimestamp" (fun _ => w.timeShown o.metadata.created)
      (withField "deletionTimestamp" (fun _ => w.timeShown o.metadata.deleted) m)
  let link (status : Value) : Value :=
    withField "oauthUrl" (fun url => w.linkShown url.textOf) status
  withField "metadata" times (withField "status" link (shelf.toValue o))

/-- The object at a key as it is shown, or null. -/
def shownAt {σ τ : Type} (w : World) (shelf : Shelf σ τ) (k : Key) : Value :=
  (((shelf.store w.cluster).get? k).map (w.shown shelf)).getD .null

/-- Objects as they are shown in a listing. -/
def listShown {σ τ : Type} (w : World) (shelf : Shelf σ τ) (objects : List (Object σ τ)) : Value :=
  .array ((listed w.isMadeUp objects).map (w.shown shelf))

/-! ## What is done with a store -/

/-- Asks a store. -/
def askStore {σ τ : Type} (w : World) (shelf : Shelf σ τ) (r : StoreRequest σ τ) :
    Except StoreFailure r.Result × World :=
  let (a, w) := w.ask (shelf.request r)
  (shelf.answer r a, w)

/-- The stored object at a key with a value laid over its written form. -/
def merged? {σ τ : Type} (w : World) (shelf : Shelf σ τ) (k : Key) (top : Value) :
    Option (Object σ τ) := do
  let o ← (shelf.store w.cluster).get? k
  shelf.reader.ofValue? ((shelf.toValue o).merge top)

/-- Creates objects one after the other, up to the first that cannot be created. -/
def createAll {σ τ : Type} (w : World) (shelf : Shelf σ τ) :
    List (Object σ τ) → Except StoreFailure Unit × World
  | [] => (.ok (), w)
  | o :: rest =>
    match w.askStore shelf (.create o) with
    | (.ok _, w) => createAll w shelf rest
    | (.error f, w) => (.error f, w)

/-- Creates a number of objects with serial numbers behind their names, up to the first that cannot
be created. -/
def createMany {σ τ : Type} (w : World) (shelf : Shelf σ τ) (o : Object σ τ) (count : Nat) :
    Except StoreFailure Unit × World :=
  w.createAll shelf (numbered o count)

/-- What the follower of a store has not seen yet. -/
def unseen {σ τ : Type} (w : World) (shelf : Shelf σ τ) : List (Store.Seen σ τ) :=
  match w.following.find? (·.1 == shelf.source) with
  | none => []
  | some (_, seen) => sights (shelf.store w.cluster) (Store.greatestLag + 1) seen

end World

end TokenSteward.Rehearsal
