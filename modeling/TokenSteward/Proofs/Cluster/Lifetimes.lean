import TokenSteward.Proofs.Cluster.Calls
import TokenSteward.Proofs.Cluster.Chances
import TokenSteward.Proofs.Cluster.Listing

/-! # From creation to removal

Whatever is asked of a store, and whatever the objects say that come with it: objects lie under
their own complete keys, no two of them share a version, and one whose deletion was requested is
guarded. As long as an object lies at a key it is the same one: what the store has decided on at its
creation stays, and so does the instant of the request for its deletion.
-/

namespace TokenSteward.Cluster.Store

open TokenSteward.Resource

variable {σ τ : Type}

/-- What holds of a store whatever it was asked. -/
structure Consistent (s : Store σ τ) : Prop extends s.Sound where
  named : ∀ {k o}, s.get? k = some o → k.space ≠ "" ∧ k.name ≠ ""
  apart : ∀ {j k o p}, s.get? j = some o → s.get? k = some p →
    o.metadata.version = p.metadata.version → j = k

theorem consistent_empty (kind : String) (draws : Draws) : (empty kind draws : Store σ τ).Consistent where
  toSound := sound_empty kind draws
  named found := by simp [get?_empty] at found
  apart found := by simp [get?_empty] at found

theorem mem_namesIn {s : Store σ τ} {space name : String} :
    name ∈ s.namesIn space ↔ ∃ o, s.get? ⟨space, name⟩ = some o := by
  simp only [namesIn, List.mem_map, List.mem_filter, beq_iff_eq]
  constructor
  · rintro ⟨⟨⟨_, _⟩, o⟩, ⟨present, rfl⟩, rfl⟩
    exact ⟨o, Table.lookup_of_mem s.objects.ascending present⟩
  · rintro ⟨o, found⟩
    exact ⟨(⟨space, name⟩, o), ⟨Table.mem_of_lookup found, rfl⟩, rfl⟩

/-- No object is given an empty name. -/
theorem name_ne_empty {s : Store σ τ} {m : Metadata} {name : String} {namings : List String}
    (given : s.nameFor m = some (name, namings)) : name ≠ "" := by
  simp only [nameFor] at given
  split at given
  · next named =>
    obtain ⟨rfl, -⟩ := Prod.mk.inj (Option.some.inj given)
    simpa using named
  · split at given
    · contradiction
    · next begins =>
      obtain ⟨rfl, -⟩ := Prod.mk.inj (Option.some.inj given)
      intro empty
      have none : m.generateName = "" := (String.append_eq_empty_iff.mp empty).1
      simp [none] at begins

/-- An object that comes without a name, but with the beginning of one, is never refused for its name:
the one that is made up is free. -/
theorem create_unnamed (s : Store σ τ) (now : Timestamp) {o : Object σ τ} (space : o.metadata.space ≠ "")
    (unnamed : o.metadata.name = "") (begins : o.metadata.generateName ≠ "") :
    ∃ name s', s.create now o = (.ok (s.born now o name), s') := by
  let name := o.metadata.generateName ++
    s.draws.ending s.namings.length o.metadata.generateName (s.namesIn o.metadata.space)
  have free : s.objects.contains ⟨o.metadata.space, name⟩ = false := by
    cases here : s.get? ⟨o.metadata.space, name⟩ with
    | none => exact (congrArg Option.isSome here :)
    | some other => exact absurd (mem_namesIn.mpr ⟨other, here⟩) (s.draws.free _ _ _)
  have named : s.nameFor o.metadata = some (name, name :: s.namings) := by
    simp [nameFor, unnamed, begins, name]
  exact ⟨name, _, by simp only [create, String.isEmpty_iff, space, named, free]; rfl⟩

/-- An object is created only under a complete key. -/
theorem key_of_create {s s' : Store σ τ} {now : Timestamp} {o made : Object σ τ}
    (done : s.create now o = (.ok made, s')) : made.key.space ≠ "" ∧ made.key.name ≠ "" := by
  simp only [create] at done
  split at done
  · cases done
  · next spaced =>
    split at done
    · cases done
    · next name namings given =>
      split at done
      · cases done
      · cases done
        have space : o.metadata.space ≠ "" := by simpa using spaced
        exact ⟨space, name_ne_empty given⟩

variable [DecidableEq τ] {s : Store σ τ}

/-- What lies at a key and was not created lay there before. -/
theorem Sound.found_before (sound : s.Sound) (now : Timestamp) {r : StoreRequest σ τ}
    (other : ∀ o, r ≠ .create o) {k : Key} {o : Object σ τ}
    (here : (s.perform now r).2.get? k = some o) : ∃ old, s.get? k = some old := by
  have fate := sound.fate now k r
  rw [here] at fate
  generalize result : some o = found at fate
  cases fate with
  | same r => exact ⟨o, result.symm⟩
  | created made name absent => exact absurd rfl (other made)
  | updated incoming stored _ before _ _ => exact ⟨stored, before⟩
  | ended incoming stored _ before _ _ _ => exact ⟨stored, before⟩
  | restated incoming stored _ before _ _ => exact ⟨stored, before⟩
  | dropped stored before _ => exact ⟨stored, before⟩
  | marked stored before _ _ => exact ⟨stored, before⟩

/-- What lies at a key after a call lay there before, or was created there under a complete key. -/
theorem Sound.named_next (sound : s.Sound) (c : Call σ τ) {k : Key} {o : Object σ τ}
    (here : (s.next c).get? k = some o) :
    (∃ old, s.get? k = some old) ∨ (k.space ≠ "" ∧ k.name ≠ "") := by
  obtain ⟨now, r⟩ := c
  by_cases creates : ∃ made, r = .create made
  · obtain ⟨made, rfl⟩ := creates
    change (s.create now made).2.get? k = some o at here
    rcases create_cases s now made with ⟨f, failed⟩ | ⟨name, s', done, -, wrote⟩
    · rw [failed] at here
      exact .inl ⟨o, here⟩
    · rw [done] at here
      rcases wrote.cases here with ⟨rfl, -⟩ | ⟨-, before⟩
      · exact .inr (key_of_create done)
      · exact .inl ⟨o, before⟩
  · exact .inl (sound.found_before now (fun made same => creates ⟨made, same⟩) here)

omit [DecidableEq τ] in
/-- The next version is that of no object yet, so versions stay apart. -/
theorem Consistent.apart_change (consistent : s.Consistent) {s' : Store σ τ} (change : Change s s')
    {j k : Key} {o p : Object σ τ} (first : s'.get? j = some o) (second : s'.get? k = some p)
    (same : o.metadata.version = p.metadata.version) : j = k := by
  cases change with
  | kept => exact consistent.apart first second same
  | wrote w wrote _ =>
    have numbered := wrote.numbered
    rcases wrote.cases first with ⟨rfl, rfl⟩ | ⟨_, before⟩
    · rcases wrote.cases second with ⟨rfl, rfl⟩ | ⟨_, before'⟩
      · rfl
      · have := consistent.given before'
        omega
    · rcases wrote.cases second with ⟨rfl, rfl⟩ | ⟨_, before'⟩
      · have := consistent.given before
        omega
      · exact consistent.apart before before' same
  | removed _ _ _ _ _ =>
    exact consistent.apart (get?_of_remove first).2 (get?_of_remove second).2 same

theorem Consistent.next (consistent : s.Consistent) (c : Call σ τ) : (s.next c).Consistent where
  toSound := consistent.toSound.next c
  named := by
    intro k o here
    rcases consistent.named_next c here with ⟨old, before⟩ | complete
    · exact consistent.named before
    · exact complete
  apart := consistent.apart_change (consistent.change_next c)

theorem Consistent.after (consistent : s.Consistent) (calls : List (Call σ τ)) :
    (s.after calls).Consistent :=
  consistent.kept (fun _ holds c => holds.next c) consistent calls

/-! ## Lifetimes -/

/-- The same object, earlier and later: what the store has decided on at its creation is the same,
and a request for its deletion stands with its instant. -/
structure Continues (old new : Object σ τ) : Prop where
  uid : new.metadata.uid = old.metadata.uid
  generateName : new.metadata.generateName = old.metadata.generateName
  created : new.metadata.created = old.metadata.created
  deleted : ∀ {t}, old.metadata.deleted = some t → new.metadata.deleted = some t

omit [DecidableEq τ] in
theorem Continues.refl (o : Object σ τ) : Continues o o := ⟨rfl, rfl, rfl, fun same => same⟩

omit [DecidableEq τ] in
theorem Continues.trans {old mid new : Object σ τ} (first : Continues old mid)
    (second : Continues mid new) : Continues old new where
  uid := second.uid.trans first.uid
  generateName := second.generateName.trans first.generateName
  created := second.created.trans first.created
  deleted requested := second.deleted (first.deleted requested)

/-- What lies at a key before and after a call is the same object. -/
theorem Sound.continues (sound : s.Sound) (c : Call σ τ) {k : Key} {old new : Object σ τ}
    (before : s.get? k = some old) (here : (s.next c).get? k = some new) : Continues old new := by
  have fate := sound.fate c.now k c.request
  change Fate s c.now k c.request ((s.next c).get? k) at fate
  rw [here] at fate
  generalize c.request = r, found : some new = result at fate
  cases fate with
  | same r =>
    obtain rfl := Option.some.inj (found.trans before)
    exact .refl _
  | created o name absent =>
    rw [absent] at before
    contradiction
  | updated o stored _ present _ _ =>
    obtain rfl := Option.some.inj found
    obtain rfl := Option.some.inj (before.symm.trans present)
    exact ⟨rfl, rfl, rfl, fun requested => requested⟩
  | ended => contradiction
  | restated o stored _ present _ _ =>
    obtain rfl := Option.some.inj found
    obtain rfl := Option.some.inj (before.symm.trans present)
    exact ⟨rfl, rfl, rfl, fun requested => requested⟩
  | dropped => contradiction
  | marked stored present _ alive =>
    obtain rfl := Option.some.inj found
    obtain rfl := Option.some.inj (before.symm.trans present)
    refine ⟨rfl, rfl, rfl, fun requested => ?_⟩
    simp [Object.isDeleting, Metadata.isDeleting, requested] at alive

/-- Something lies at a key from the first to the last of some calls. -/
def Occupied (s : Store σ τ) (k : Key) (calls : List (Call σ τ)) : Prop :=
  ∀ early late, calls = early ++ late → ∃ o, (s.after early).get? k = some o

theorem Occupied.tail {k : Key} {c : Call σ τ} {calls : List (Call σ τ)}
    (occupied : s.Occupied k (c :: calls)) : (s.next c).Occupied k calls := by
  rintro early late rfl
  exact occupied (c :: early) late rfl

theorem Occupied.cons {k : Key} {c : Call σ τ} {calls : List (Call σ τ)} {o : Object σ τ}
    (here : s.get? k = some o) (rest : (s.next c).Occupied k calls) : s.Occupied k (c :: calls) := by
  intro early late split
  cases early with
  | nil => exact ⟨o, here⟩
  | cons d early =>
    obtain ⟨rfl, later⟩ := List.cons.inj split
    exact rest early late later

/-- As long as something lies at a key, it is the same object. -/
theorem Sound.continues_after (sound : s.Sound) {k : Key} {calls : List (Call σ τ)}
    (occupied : s.Occupied k calls) {old new : Object σ τ} (before : s.get? k = some old)
    (here : (s.after calls).get? k = some new) : Continues old new := by
  induction calls generalizing s old with
  | nil =>
    obtain rfl := Option.some.inj (before.symm.trans here)
    exact .refl _
  | cons c calls ih =>
    obtain ⟨mid, between⟩ := occupied [c] calls rfl
    exact (sound.continues c before between).trans (ih (sound.next c) occupied.tail between here)

/-- Whatever a store is asked, and whatever comes with it: the store is consistent, its versions are
no more than the calls, and what lies at a key until it is removed is the same object. -/
theorem consistent_ofCalls (kind : String) (draws : Draws) (early late : List (Call σ τ)) :
    (ofCalls kind draws early).Consistent ∧ (ofCalls kind draws early).version ≤ early.length ∧
      ∀ {k : Key} {old new : Object σ τ}, (ofCalls kind draws early).Occupied k late →
        (ofCalls kind draws early).get? k = some old →
        (ofCalls kind draws (early ++ late)).get? k = some new → Continues old new := by
  have consistent : (ofCalls kind draws early).Consistent := (consistent_empty kind draws).after early
  have few := (sound_empty kind draws).version_after_le early
  rw [empty, Nat.zero_add] at few
  refine ⟨consistent, few, fun occupied before here => ?_⟩
  rw [ofCalls_append] at here
  exact consistent.continues_after occupied before here

/-- A token that is guarded from the beginning. -/
def guardedToken : AccessToken :=
  AccessToken.fresh ((Metadata.named "dev" "git").addGuard secretGuard) "https://git.example" .none

/-- The token as it is stored once its deletion was requested, after a second. -/
def doomedToken : AccessToken :=
  let made : AccessToken := Store.born (empty AccessToken.kind (.serial "t")) (.ofSeconds 0) guardedToken "git"
  { made with metadata := { made.metadata with version := 2, deleted := some (.ofSeconds 1) } }

/-- The token as a client sends it who makes up what the store decides on. -/
def forgedToken : AccessToken :=
  { guardedToken with metadata := { guardedToken.metadata with
      uid := "forged"
      generateName := "forged-"
      created := some (.ofSeconds 5)
      deleted := none } }

/-- The token is what it was after a forged update and another request for its deletion. -/
theorem consistent_ofCalls_forged :
    let early : List (Call TokenSpec TokenStatus) :=
      [⟨.ofSeconds 0, .create guardedToken⟩, ⟨.ofSeconds 1, .delete guardedToken.key⟩]
    let late : List (Call TokenSpec TokenStatus) :=
      [⟨.ofSeconds 2, .update forgedToken⟩, ⟨.ofSeconds 3, .delete guardedToken.key⟩]
    ∃ new, (ofCalls AccessToken.kind (.serial "t") early).Occupied guardedToken.key late ∧
      (ofCalls AccessToken.kind (.serial "t") early).get? guardedToken.key = some doomedToken ∧
      (ofCalls AccessToken.kind (.serial "t") (early ++ late)).get? guardedToken.key = some new ∧
      Continues doomedToken new := by
  intro early late
  have before : (ofCalls AccessToken.kind (.serial "t") early).get? guardedToken.key = some doomedToken := by
    decide +kernel
  have between : (((ofCalls AccessToken.kind (.serial "t") early).next
      ⟨.ofSeconds 2, .update forgedToken⟩).get? guardedToken.key).isSome = true := by decide +kernel
  have here : ((ofCalls AccessToken.kind (.serial "t") (early ++ late)).get? guardedToken.key).isSome = true := by
    decide +kernel
  obtain ⟨mid, between⟩ := Option.isSome_iff_exists.mp between
  obtain ⟨new, here⟩ := Option.isSome_iff_exists.mp here
  have occupied : (ofCalls AccessToken.kind (.serial "t") early).Occupied guardedToken.key late := by
    refine .cons before (.cons between ?_)
    intro before behind split
    obtain ⟨rfl, rfl⟩ := List.append_eq_nil_iff.mp split.symm
    exact ⟨new, here⟩
  exact ⟨new, occupied, before, here,
    (consistent_ofCalls AccessToken.kind (.serial "t") early late).2.2 occupied before here⟩

end TokenSteward.Cluster.Store

namespace TokenSteward

open TokenSteward.Cluster

/-- Whatever a cluster is asked, tokens lie under complete keys, each with a version of its own. -/
theorem Cluster.Later.consistent {c c' : Cluster} (later : c.Later c')
    (consistent : c.tokens.Consistent) : c'.tokens.Consistent := by
  induction later with
  | now => exact consistent
  | @answer c' _ x r ih =>
    by_cases tokens : ∃ s, r = .tokens s
    · obtain ⟨s, rfl⟩ := tokens
      rcases c'.answer_tokens_cases x s with ⟨f, failed⟩ | ⟨_, served⟩
      · rwa [failed]
      · rw [served]
        exact ih.next ⟨c'.now, s⟩
    · rwa [Cluster.tokens_answer c' x r fun s same => tokens ⟨s, same⟩]
  | clock _ _ ih => exact ih

end TokenSteward
