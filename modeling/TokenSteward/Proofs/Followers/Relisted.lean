import TokenSteward.Proofs.Followers.Meetings
import TokenSteward.Proofs.Rest.Settled

/-! # After events were missed

A follower that is too far behind misses events for good. It lists the store instead and takes each object
that is there as changed. What a missed event would have brought up comes up all the same if its keys hang
on the key of its object alone, and the object is still there. Who is told of removals only learns nothing
from a list: what was removed while it was behind comes up by the controller's own listings from time to
time.
-/

namespace TokenSteward

/-- Whether an event tells that an object was removed. -/
def Cluster.Event.isRemoval {σ τ : Type} : Event σ τ → Bool
  | .applied _ => false
  | .deleted _ => true

open TokenSteward.Resource

/-! ## Writes in a row -/

namespace Cluster.Store

variable {σ τ : Type} {s : Store σ τ} {o stored : Object σ τ}

/-- A store after an object was written a number of times. -/
def rewritten (s : Store σ τ) (o : Object σ τ) : Nat → Store σ τ
  | 0 => s
  | n + 1 => ((s.rewritten o n).update o).2

theorem Sound.rewritten [DecidableEq τ] (sound : s.Sound) (o : Object σ τ) (n : Nat) :
    (s.rewritten o n).Sound := by
  induction n with
  | zero => exact sound
  | succ n ih => exact ih.change (change_perform ih default (.update o))

end Cluster.Store

namespace Controller

open TokenSteward.Cluster

/-! ## What a list makes up for -/

/-- The store that tells a change. -/
def Change.source : Change → Source
  | .token _ => .tokens
  | .binding _ => .bindings
  | .update _ => .updates

namespace Source

variable {s : Source} {c : Cluster} {k : Key} {n : Nat} {e : Change}

/-- The objects of a store, each taken as changed. -/
def applied (s : Source) (c : Cluster) : List Change :=
  match s with
  | .tokens => (c.tokens.list none Selector.everything).map fun o => .token (.applied o)
  | .bindings => (c.bindings.list none Selector.everything).map fun o => .binding (.applied o)
  | .updates => (c.updates.list none Selector.everything).map fun o => .update (.applied o)

/-- The event of a store with a number. -/
def change? (s : Source) (c : Cluster) (n : Nat) : Option Change :=
  match s with
  | .tokens => (c.tokens.change? n).map .token
  | .bindings => (c.bindings.change? n).map .binding
  | .updates => (c.updates.change? n).map .update

theorem follow_change {seen later : Nat} (sees : Source.bindings.follow c seen = (.change e, later)) :
    ∃ e', e = .binding e' ∧ c.bindings.change? seen = some e' ∧ later = seen + 1 := by
  by_cases far : Store.greatestLag < c.bindings.published - seen
  · simp [follow, Store.follow, far] at sees
  · cases told : c.bindings.change? seen with
    | none => simp [follow, Store.follow, far, told] at sees
    | some e' =>
      simp only [follow, Store.follow, far, told, if_false, Prod.mk.injEq, Sighting.change.injEq] at sees
      exact ⟨e', sees.1.symm, rfl, sees.2.symm⟩

theorem le_of_follow_missed {seen later : Nat} (sees : Source.bindings.follow c seen = (.missed, later)) :
    seen ≤ later := by
  by_cases far : Store.greatestLag < c.bindings.published - seen
  · simp only [follow, Store.follow, far, if_true, Prod.mk.injEq, true_and] at sees
    omega
  · cases told : c.bindings.change? seen <;> simp [follow, Store.follow, far, told] at sees

theorem comesTo_listing (s : Source) {x : Meeting} (answered : x.chance.refusal = none) :
    s.listing.ComesTo [x] (s.applied x.cluster) := by
  cases s <;> refine .ask ?_ <;> simp only [Cluster.answer, answered, Store.perform] <;> exact .done _

theorem comesTo_allKeys (s : Source) {x : Meeting} (answered : x.chance.refusal = none)
    (sound : x.cluster.Sound) : ∃ keys, s.allKeys.ComesTo [x] keys ∧ ∀ k, s.Holds x.cluster k → k ∈ keys := by
  obtain ⟨r, next, same, _, finds⟩ := s.allKeys_eq
  obtain ⟨keys, ends, all⟩ := finds x.cluster x.chance sound answered
  rw [same]
  exact ⟨keys, .ask (ends ▸ .done keys), all⟩

end Source

namespace Mapper

variable {m : Mapper} {e e' : Change} {met met' : List Meeting} {keys keys' : List Key}

/-- Among some keys are all those that a change concerns, as they are found in the course of some
meetings. -/
def Recovers (m : Mapper) (e : Change) (met : List Meeting) (keys : List Key) : Prop :=
  ∃ asked found, asked <:+: met ∧ (m.keys e).ComesTo asked found ∧ ∀ k ∈ found, k ∈ keys

theorem Recovers.mono (recovers : m.Recovers e met keys) (longer : met <:+: met')
    (more : ∀ k ∈ keys, k ∈ keys') : m.Recovers e met' keys' := by
  obtain ⟨asked, found, within, comes, among⟩ := recovers
  exact ⟨asked, found, within.trans longer, comes, fun k here => more k (among k here)⟩

/-- If the keys of those that depend on a token were found, the key of every binding is among them that was
linked to the token when they were asked for, unless the question was refused. -/
theorem Recovers.dependents {t : Event TokenSpec TokenStatus}
    (recovers : Mapper.dependents.Recovers (.token t) met keys) :
    ∃ x ∈ met, x.chance.refusal = none → x.cluster.Sound → ∀ k b, x.cluster.bindings.get? k = some b →
      Binding.linkedKey? b = some t.object.key → k ∈ keys := by
  obtain ⟨asked, found, within, comes, among⟩ := recovers
  cases comes with
  | @ask _ _ x later _ goesOn =>
    refine ⟨x, within.subset List.mem_cons_self, fun answered sound k b stored link => among k ?_⟩
    obtain ⟨name, named, same⟩ := Option.map_eq_some_iff.mp link
    have label : b.metadata.labels.get? linkLabel = some name := (Option.filter_eq_some_iff.mp named).1
    rw [← same] at goesOn
    simp only [Cluster.answer, answered, Store.perform] at goesOn
    cases goesOn
    refine List.mem_map.mpr ⟨b, Store.mem_list.mpr ⟨⟨k, stored⟩, ?_, selects_only.mpr label⟩,
      sound.bindings.filed stored⟩
    exact fun space same => Option.some.inj same

/-- A mapper asks at most once for the keys that a change concerns. -/
theorem comesTo_keys (m : Mapper) (e : Change) (some : met ≠ []) :
    ∃ used more found, met = used ++ more ∧ used.length ≤ 1 ∧ (m.keys e).ComesTo used found := by
  have brief := m.brief_keys e
  generalize m.keys e = asked at brief ⊢
  cases brief with
  | atOnce keys => exact ⟨[], met, _, rfl, Nat.zero_le 1, .done _⟩
  | @listing r next lists knows =>
    obtain ⟨x, rest, rfl⟩ := List.exists_cons_of_ne_nil some
    obtain ⟨found, known⟩ := knows (x.cluster.answer x.chance r).1
    refine ⟨[x], rest, found, rfl, Nat.le_refl 1, .ask ?_⟩
    rw [known]
    exact .done _

/-- Whoever takes some changes one after the other asks at most once for each, and finds the keys of all. -/
theorem comesTo_allKeys (m : Mapper) (changes : List Change) (enough : changes.length ≤ met.length) :
    ∃ used more found, met = used ++ more ∧ used.length ≤ changes.length ∧
      (m.allKeys changes).ComesTo used found ∧ ∀ e ∈ changes, m.Recovers e used found := by
  induction changes generalizing met with
  | nil => exact ⟨[], met, [], rfl, Nat.le_refl 0, .done _, by simp⟩
  | cons e changes ih =>
    simp only [List.length_cons] at enough ⊢
    have some : met ≠ [] := by
      rintro rfl
      simp at enough
    obtain ⟨first, rest, found, rfl, once, comes⟩ := m.comesTo_keys e some
    have fewer : changes.length ≤ rest.length := by
      rw [List.length_append] at enough
      omega
    obtain ⟨used, more, others, rfl, bound, later, all⟩ := ih fewer
    refine ⟨first ++ used, more, found ++ others, (List.append_assoc ..).symm, ?_, ?_, ?_⟩
    · rw [List.length_append]
      omega
    · have both : (m.allKeys changes >>= fun more => pure (found ++ more)).ComesTo (used ++ [])
          (found ++ others) := later.bind (.done _)
      rw [List.append_nil] at both
      exact comes.bind both
    · rintro e' among
      rcases List.mem_cons.mp among with rfl | among
      · exact ⟨first, found, (List.prefix_append ..).isInfix, comes, fun _ => List.mem_append_left _⟩
      · exact (all e' among).mono (List.suffix_append ..).isInfix fun _ => List.mem_append_right _

end Mapper

/-- Who has missed events and may list the store gathers the keys that its objects concern. -/
theorem Watch.comesTo_relist (w : Watch) {listing : Meeting} {asked : List Meeting}
    (answered : listing.chance.refusal = none)
    (enough : (w.source.applied listing.cluster).length ≤ asked.length) :
    ∃ used more found, asked = used ++ more ∧ used.length ≤ (w.source.applied listing.cluster).length ∧
      w.relist.ComesTo (listing :: used) found ∧
        ∀ e ∈ w.source.applied listing.cluster, w.mapper.Recovers e used found := by
  obtain ⟨used, more, found, same, bound, comes, all⟩ := w.mapper.comesTo_allKeys _ enough
  exact ⟨used, more, found, same, bound, (w.source.comesTo_listing answered).bind comes, all⟩

namespace Machine

variable {m : Machine} {id i : Nat} {c : Controller}

/-- A task of a controller follows a store and finds at its next turn that it has missed the events from
one number up to another. -/
structure Lags (m : Machine) (id i : Nat) (c : Controller) (w : Watch) (seen later : Nat) : Prop where
  hired : m.Hires i c
  there : c.queue < m.core.width
  follows : m.core.task id = .watch i w seen none
  going : m.stopping = false
  missed : w.source.follow m.cluster seen = (.missed, later)

/-- A task of a controller lists the objects of the controller's store at its next turn. -/
structure Lists (m : Machine) (id i : Nat) (c : Controller) (due : Nat) : Prop where
  hired : m.Hires i c
  there : c.queue < m.core.width
  waits : m.core.task id = .resync i due none
  going : m.stopping = false
  come : due ≤ m.now

/-- A task that begins to gather keys serves its controller. -/
theorem serves_setTask {t : Task} {p : Pass (List Key)} {again : Option (Pass (List Key)) → Task}
    (hired : m.Hires i c) (there : c.queue < m.core.width) (inside : id < m.core.size)
    (gathers : t.Gathers i p again) :
    (m.setTask id t).Serves id i c ∧ ((m.setTask id t).core.task id).Gathers i p again := by
  have core := core_setTask m inside t
  have task := task_setTask m inside t
  rw [task]
  exact ⟨⟨hired, by rwa [core], by rwa [core], by rw [task]; exact gathers.gathersFor⟩, gathers⟩

variable {w : Watch} {seen later due : Nat}

theorem Lags.inside (lags : m.Lags id i c w seen later) : id < m.core.size :=
  m.inside_of_task lags.follows (by simp)

theorem Lags.turn_eq (lags : m.Lags id i c w seen later) (x : Chance) :
    m.turn id x = m.setTask id (.watch i w later (some w.relist)) := by
  have here : m.tasks.getD id .finished = .watch i w seen none := lags.follows
  simp only [turn, step, here, lags.going, Bool.false_eq_true, if_false, lags.missed, after]

theorem Lags.serves (lags : m.Lags id i c w seen later) (x : Chance) :
    (m.turn id x).Serves id i c ∧
      ((m.turn id x).core.task id).Gathers i w.relist (.watch i w later) := by
  rw [lags.turn_eq]
  exact serves_setTask lags.hired lags.there lags.inside (.watch ..)

theorem Lags.cluster_turn (lags : m.Lags id i c w seen later) (x : Chance) :
    (m.turn id x).cluster = m.cluster := by
  rw [lags.turn_eq]
  rfl

theorem Lists.serves (lists : m.Lists id i c due) (x : Chance) :
    (m.turn id x).Serves id i c ∧ ∃ again,
      ((m.turn id x).core.task id).Gathers i c.source.allKeys again := by
  have inside : id < m.core.size := m.inside_of_task lists.waits (by simp)
  have here : m.tasks.getD id .finished = .resync i due none := lists.waits
  obtain ⟨d, found, alike⟩ := lists.hired.found
  simp only [turn, step, here, found, lists.going, Bool.false_eq_true, if_false, lists.come, if_true, after,
    alike.source]
  obtain ⟨serves, gathers⟩ := serves_setTask lists.hired lists.there inside
    (.resync i (due + Nat.max (millisUp d.tuning.resyncPeriod) 1) c.source.allKeys)
  exact ⟨serves, _, gathers⟩

/-- What a controller is bound to learn from a listing of its own store: every key at which something
lies. -/
theorem Lists.passed (lists : m.Lists id i c due) (first : Chance) {moves : List Move}
    {listing next : Meeting} {rest : List Meeting}
    (met : (m.turn id first).meetings id moves = listing :: next :: rest)
    (answered : listing.chance.refusal = none) (sound : listing.cluster.Sound) :
    (m.turn id first).Adds id c.queue moves ∧
      ∀ k, c.source.Holds listing.cluster k → k ∈ (m.turn id first).passed id moves := by
  obtain ⟨serves, again, gathers⟩ := lists.serves first
  obtain ⟨keys, comes, all⟩ := c.source.comesTo_allKeys answered sound
  exact ⟨serves.adds moves, fun k holds => serves.passed_of_comesTo comes gathers met k (all k holds)⟩

/-- What a follower passes on that has missed events and may list the store. -/
theorem Lags.passed (lags : m.Lags id i c w seen later) (first : Chance) {moves : List Move}
    {listing : Meeting} {asked : List Meeting}
    (met : (m.turn id first).meetings id moves = listing :: asked)
    (answered : listing.chance.refusal = none)
    (enough : (w.source.applied listing.cluster).length < asked.length) :
    ∀ e ∈ w.source.applied listing.cluster,
      w.mapper.Recovers e asked ((m.turn id first).passed id moves) := by
  obtain ⟨serves, gathers⟩ := lags.serves first
  obtain ⟨used, more, keys, rfl, bound, comes, all⟩ := w.comesTo_relist answered (Nat.le_of_lt enough)
  cases more with
  | nil =>
    rw [List.append_nil] at enough
    exact absurd enough (Nat.not_lt.mpr bound)
  | cons last rest =>
    have keys := serves.passed_of_comesTo comes gathers met
    exact fun e there => (all e there).mono (List.prefix_append ..).isInfix keys

/-- A follower that is told of removals only, in a state in which it has nothing to pass on and all that is
still ahead of it was told from a number on. -/
inductive FollowsRemovalsFrom (i later : Nat) : Task → Prop where
  | ended : FollowsRemovalsFrom i later .finished
  | looks {seen : Nat} (ahead : later ≤ seen) :
      FollowsRemovalsFrom i later (.watch i ⟨.bindings, .released⟩ seen none)
  | relists {seen : Nat} (ahead : later ≤ seen) :
      FollowsRemovalsFrom i later
        (.watch i ⟨.bindings, .released⟩ seen (some (Watch.relist ⟨.bindings, .released⟩)))
  | found {seen : Nat} (ahead : later ≤ seen) :
      FollowsRemovalsFrom i later (.watch i ⟨.bindings, .released⟩ seen (some (.done [])))

theorem FollowsRemovalsFrom.onlyLists {t : Task} (follows : FollowsRemovalsFrom i later t) : OnlyLists t := by
  cases follows with
  | ended => trivial
  | looks => exact fun p none => by cases none
  | relists =>
    rintro _ ⟨⟩
    exact Watch.asks_relist _
  | found =>
    rintro _ ⟨⟩
    exact Pass.asks_pure []

theorem FollowsRemovalsFrom.gathered {t : Task} (follows : FollowsRemovalsFrom i later t) : t.gathered = [] := by
  cases follows <;> rfl

/-- A list tells of no removal. -/
theorem relist_released : ∃ r next, Watch.relist ⟨.bindings, .released⟩ = .ask r next ∧
    ∀ a, next a = .done [] := by
  have nothing (all : List Binding) :
      Mapper.released.allKeys (all.map fun o => .binding (.applied o)) = .done [] := by
    induction all with
    | nil => rfl
    | cons b all ih =>
      rw [List.map_cons, Mapper.allKeys, ih]
      rfl
  refine ⟨.bindings (.list none Selector.everything), _, rfl, fun a => ?_⟩
  cases a with
  | ok all => exact nothing all
  | error f => rfl

/-- As long as no removal is told, it has nothing to pass on. -/
theorem Serves.followsRemovalsFrom_turn (serves : m.Serves id i c)
    (follows : FollowsRemovalsFrom i later (m.core.task id))
    (silent : ∀ n e, later ≤ n → m.cluster.bindings.change? n = some e → e.isRemoval = false)
    (x : Chance) : FollowsRemovalsFrom i later ((m.turn id x).core.task id) := by
  have set {t : Task} (follows : FollowsRemovalsFrom i later t) :
      FollowsRemovalsFrom i later ((m.setTask id t).core.task id) := by
    rwa [task_setTask m serves.inside]
  generalize there : m.core.task id = t at follows
  have here : m.tasks.getD id .finished = t := there
  cases follows with
  | ended =>
    simp only [Machine.turn, step, here, after, there]
    exact .ended
  | looks ahead =>
    simp only [Machine.turn, step, here]
    split
    · exact set .ended
    · split
      · next e seen' sees =>
        obtain ⟨e, rfl, told, rfl⟩ := Source.follow_change sees
        have stays := silent _ e ahead told
        cases e with
        | applied b => exact set (.found (Nat.le_succ_of_le ahead))
        | deleted b => cases stays
      · next seen' sees => exact set (.relists (Nat.le_trans ahead (Source.le_of_follow_missed sees)))
      · exact there ▸ .looks ahead
  | @relists seen ahead =>
    obtain ⟨r, next, same, ends⟩ := relist_released
    have gathers : (m.core.task id).Gathers i (.ask r next) (.watch i ⟨.bindings, .released⟩ seen) := by
      rw [there, same]
      exact .watch ..
    rw [serves.asks x gathers, Core.set_task_self, ends]
    exact .found ahead
  | @found seen ahead =>
    have gathers : (m.core.task id).Gathers i (.done []) (.watch i ⟨.bindings, .released⟩ seen) := by
      rw [there]
      exact .watch ..
    rw [serves.hands x gathers, Core.file_task, Core.set_task_self]
    exact .looks ahead

/-- Who is told of removals only passes nothing on as long as it is alone and no removal is told. -/
theorem Serves.silent (serves : m.Serves id i c) (follows : FollowsRemovalsFrom i later (m.core.task id))
    (silent : ∀ n e, later ≤ n → m.cluster.bindings.change? n = some e → e.isRemoval = false)
    (turns : List Chance) : m.passed id (turns.map (.turn id)) = [] := by
  induction turns generalizing m with
  | nil => rfl
  | cons x turns ih =>
    have same : (m.moved (.turn id x)).cluster = m.cluster := (serves.lists follows.onlyLists x).2
    have none := ih (serves.moved (.turn id x)).1 (serves.followsRemovalsFrom_turn follows silent x)
      (same ▸ silent)
    rw [List.map_cons, passed, none, follows.gathered, ite_self, List.append_nil]

/-- A follower that has missed events and is alone then meets the same cluster always. -/
theorem Lags.alone (lags : m.Lags id i c w seen later) (first : Chance) (turns : List Chance) :
    (m.turn id first).meetings id (turns.map (.turn id)) = turns.map (Meeting.mk m.cluster) ∧
      ((m.turn id first).played (turns.map (.turn id))).cluster = m.cluster := by
  have lists : OnlyLists ((m.turn id first).core.task id) := by
    rw [lags.turn_eq, task_setTask m lags.inside]
    rintro _ ⟨⟩
    exact w.asks_relist
  have alone := (lags.serves first).1.alone lists turns
  rwa [lags.cluster_turn] at alone

/-- So the removals that it has missed stay unheard. -/
theorem Lags.silent (lags : m.Lags id i c ⟨.bindings, .released⟩ seen later)
    (silent : ∀ n e, later ≤ n → m.cluster.bindings.change? n = some e → e.isRemoval = false)
    (first : Chance) (turns : List Chance) :
    (m.turn id first).passed id (turns.map (.turn id)) = [] := by
  refine (lags.serves first).1.silent ?_ (lags.cluster_turn first ▸ silent) turns
  rw [lags.turn_eq, task_setTask m lags.inside]
  exact .relists (Nat.le_refl later)

/-! ## Bursts -/

/-- A token whose deletion waits for the bindings that are linked to it. -/
def waitingToken : AccessToken :=
  .fresh { Metadata.named "dev" "git" with guards := [bindingsGuard] } "https://git.example" Permissions.none

/-- The binding that is linked to it. -/
def lastBinding : Binding :=
  .fresh { Metadata.named "dev" "repo" with labels := Table.empty.insert linkLabel "git" }
    "https://git.example/repo" Permissions.none

/-- Another binding. -/
def busyBinding : Binding :=
  .fresh (Metadata.named "dev" "busy") "https://git.example/busy" Permissions.none

/-- A cluster after some requests from outside. -/
def served (c : Cluster) (all : List Request) : Cluster := all.foldl (fun c r => (c.answer .quiet r).2) c

/-- The cluster with the token and both bindings. -/
def linkedCluster : Cluster :=
  served (.empty (.serial 0)) [.tokens (.create waitingToken), .bindings (.create lastBinding),
    .bindings (.create busyBinding)]

/-- An operator's machine that was launched over the cluster with the token and both bindings, and whose
tasks were not at turn since. -/
def behind (c : Cluster) : Machine :=
  (((Machine.start linkedCluster).installOperator Works.fewDesks.operator).turn 0 .quiet).withCluster c

end Machine

end Controller

end TokenSteward
