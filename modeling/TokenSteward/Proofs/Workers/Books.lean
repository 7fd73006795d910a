import Mathlib.Data.List.DropRight
import Mathlib.Data.List.Induction
import Mathlib.Logic.Function.Basic
import TokenSteward.Proofs.Works.Core

/-! # The books of the workers

What the workers of a controller keep in common is their queue, the failures in a row of each key, and
the keys that are to be added later; besides, each of them may hold a key. The entries in these books
are told one by one, with all that each changes. A key is given back when the pass over it ends and at
no other time, and only the end of a pass touches the failures of its key or puts the key off.

From this follows what the books come to after any entries: a key is held by one worker as long as the
queue has it handed out, it has been given back as often as it was handed out but for the one who holds
it, and the failures that stand there are those since the key last started over.
-/

namespace TokenSteward

open TokenSteward.Resource TokenSteward.Time

/-! ## Failures in a row -/

/-- A pass ended in a way that counts as a failure of its key. -/
def setsBack : Except Failure Action → Bool
  | .ok _ => false
  | .error (.cancelled _) => false
  | .error f => f.isRetryable

/-- A pass ended in a way after which its key starts over. -/
def startsOver : Except Failure Action → Bool
  | .ok _ => true
  | .error f => !f.isRetryable

@[simp] theorem setsBack_cancelled (t : String) : setsBack (.error (.cancelled t)) = false := rfl
@[simp] theorem startsOver_cancelled (t : String) : startsOver (.error (.cancelled t)) = false := rfl

/-- The failures among some results of passes over a key, the latest last, since it last started
over. -/
def inARow (results : List (Except Failure Action)) : Nat :=
  (results.rtakeWhile fun r => !startsOver r).countP setsBack

theorem inARow_snoc (results : List (Except Failure Action)) (r : Except Failure Action) :
    inARow (results ++ [r]) =
      if startsOver r then 0 else inARow results + if setsBack r then 1 else 0 := by
  unfold inARow
  cases anew : startsOver r with
  | true => simp [List.rtakeWhile_concat_neg, anew]
  | false =>
    rw [List.rtakeWhile_concat_pos _ _ _ (by simp [anew]), List.countP_append]
    simp

namespace Backoff

variable (b : Backoff) (k j : Key)

theorem failuresOf_fail :
    (b.fail k).2.failuresOf j = if j = k then succ (b.failuresOf k) else b.failuresOf j := by
  split
  · next same => simp [fail, failuresOf, same]
  · next other =>
    simp [fail, failuresOf, Table.get?_insert_of_ne b.failures _ (Ne.symm other)]

theorem failuresOf_reset : (b.reset k).failuresOf j = if j = k then 0 else b.failuresOf j := by
  split
  · next same => simp [reset, failuresOf, same]
  · next other => simp [reset, failuresOf, Table.get?_erase_of_ne b.failures (Ne.symm other)]

/-- One failure more is counted until the greatest number is reached. -/
theorem toNat_succ (n : UInt32) : (succ n).toNat = min (n.toNat + 1) (UInt32.size - 1) := by
  have bound := n.toNat_lt_size
  unfold succ
  split
  · next room =>
    rw [UInt32.toNat_add]
    simp only [UInt32.toNat_ofNat, UInt32.size] at *
    omega
  · omega

end Backoff

namespace Controller

/-! ## Entries -/

/-- A key that is to be added after a delay, from the instant at which the delay is over, once that is
known. -/
structure Deferral where
  key : Key
  delay : Span
  due : Option Nat

/-- The books of the workers of a controller: the time, their queue, the failures of the keys, the key
that each task holds, and the keys that tasks are to add to the queue later. -/
structure Books where
  now : Nat
  queue : Queue
  backoff : Backoff
  holding : Nat → Option Key
  deferred : Nat → Option Deferral

/-- The books after the turn of a task that is to add a key later. At its first turn it learns of the
instant; at a turn after that instant it adds the key and is done. -/
def Books.served (b : Books) (id : Nat) (d : Deferral) : Books :=
  match d.due with
  | none =>
    let due := b.now + Machine.millisUp d.delay
    { b with deferred := Function.update b.deferred id (some { d with due := some due }) }
  | some due =>
    if due ≤ b.now then
      { b with queue := (b.queue.add d.key).1, deferred := Function.update b.deferred id none }
    else b

/-- What an entry in the books is about: a key is put off by someone outside, a pass over a key begins,
a key is given back without one, or a pass over a key ends. -/
inductive Mark where
  | quiet
  | delayed (k : Key) (delay : Span)
  | began (k : Key)
  | declined (k : Key)
  | ended (k : Key) (result : Except Failure Action)

/-- A key is to be added once, at once if there is no delay. -/
inductive PutsOff (k : Key) (delay : Span) (b : Books) : Books → Prop where
  | atOnce (none : delay.isZero = true) : PutsOff k delay b { b with queue := (b.queue.add k).1 }
  | later {id : Nat} (some : delay.isZero = false) (free : b.deferred id = none) :
      PutsOff k delay b
        { b with deferred := Function.update b.deferred id (.some ⟨k, delay, .none⟩) }

/-- A delay is another made longer by a tenth of it at most. -/
structure Stretches (least delay : Span) : Prop where
  least_le : least.nanos ≤ delay.nanos
  le_least : 10 * delay.nanos ≤ 11 * least.nanos

/-- What follows for a key from the result of a pass over it, if the delay of another try is at least
a given one. -/
inductive Settles (least : Span) (k : Key) (b : Books) : Except Failure Action → Books → Prop where
  | rests : Settles least k b (.ok .await) { b with backoff := b.backoff.reset k }
  | requeues {delay : Span} {b' : Books}
      (again : PutsOff k delay { b with backoff := b.backoff.reset k } b') :
      Settles least k b (.ok (.requeue delay)) b'
  | retries {f : Failure} {delay : Span} {b' : Books} (counts : setsBack (.error f) = true)
      (within : Stretches least delay)
      (again : PutsOff k delay { b with backoff := (b.backoff.fail k).2 } b') :
      Settles least k b (.error f) b'
  | leaves (t : String) : Settles least k b (.error (.cancelled t)) b
  | drops {f : Failure} (hopeless : f.isRetryable = false) :
      Settles least k b (.error f) { b with backoff := b.backoff.reset k }

/-- An entry in the books, if the delay of another try for a key is at least a given one. -/
inductive Entry (least : Key → Span) (b : Books) : Mark → Books → Prop where
  | passes {now : Nat} (onward : b.now ≤ now) : Entry least b .quiet { b with now := now }
  | adds (keys : List Key) : Entry least b .quiet { b with queue := b.queue.addAll keys }
  | closes : Entry least b .quiet { b with queue := b.queue.close }
  | delays {k : Key} {delay : Span} {b' : Books} (later : PutsOff k delay b b') :
      Entry least b (.delayed k delay) b'
  | serves {id : Nat} {d : Deferral} (there : b.deferred id = some d) :
      Entry least b .quiet (b.served id d)
  | begins {id : Nat} {k : Key} {rest : List Key} (idle : b.holding id = none)
      (first : b.queue.waiting = k :: rest) :
      Entry least b (.began k) { b with
        queue := b.queue.taken k rest
        holding := Function.update b.holding id (some k) }
  | declines {k : Key} {rest : List Key} (first : b.queue.waiting = k :: rest) :
      Entry least b (.declined k) { b with queue := ((b.queue.taken k rest).done k).1 }
  | ends {id : Nat} {k : Key} {r : Except Failure Action} {b' : Books} (held : b.holding id = some k)
      (settles : Settles (least k) k b r b') :
      Entry least b (.ended k r) { b' with
        queue := (b'.queue.done k).1
        holding := Function.update b'.holding id none }

/-! ## What a log of entries tells -/

namespace Mark

/-- Whether a key is handed out. -/
def hands (k : Key) : Mark → Bool
  | began j | declined j => j == k
  | _ => false

/-- Whether a key is given back. -/
def returns (k : Key) : Mark → Bool
  | ended j _ | declined j => j == k
  | _ => false

/-- The result of a pass over a key, if one ends. One that is given back at once counts as
cancelled. -/
def result? (k : Key) : Mark → Option (Except Failure Action)
  | ended j r => if j = k then some r else none
  | declined j => if j = k then some (.error (.cancelled k.text)) else none
  | _ => none

end Mark

/-- The results of the passes over a key that have ended, the latest last. -/
def resultsOf (k : Key) (log : List Mark) : List (Except Failure Action) :=
  log.filterMap (Mark.result? k)

theorem resultsOf_snoc (k : Key) (log : List Mark) (mark : Mark) :
    resultsOf k (log ++ [mark]) = resultsOf k log ++ (mark.result? k).toList := by
  unfold resultsOf
  rw [List.filterMap_append]
  cases here : mark.result? k <;> simp [here]

/-- What a log tells of the keys in hand. -/
structure InHand (log : List Mark) (q : Queue) (holding : Nat → Option Key) : Prop where
  sound : q.Sound
  /-- The keys that are handed out are those that are held. -/
  held : ∀ k, q.processing.contains k = true ↔ ∃ id, holding id = some k
  /-- No key is held twice. -/
  single : ∀ {k id other}, holding id = some k → holding other = some k → id = other
  /-- A key has been given back as often as it was handed out, but for the one who holds it. -/
  returned : ∀ k, log.countP (Mark.hands k) =
    log.countP (Mark.returns k) + if q.processing.contains k then 1 else 0

/-- What a log tells of the failures of the keys: they are those in a row, up to the greatest number. -/
structure Counted (base greatest : Span) (log : List Mark) (b : Backoff) : Prop where
  base : b.base = base
  greatest : b.max = greatest
  failures : ∀ k, (b.failuresOf k).toNat = min (inARow (resultsOf k log)) (UInt32.size - 1)

variable {base greatest : Span} {log : List Mark} {least : Key → Span} {b b' : Books} {mark : Mark}
  {k : Key} {delay : Span} {r : Except Failure Action}

/-! ## The keys in hand -/

/-- What neither hands out a key nor gives one back. -/
structure Spares (b b' : Books) : Prop where
  holding : b'.holding = b.holding
  processing : b'.queue.processing = b.queue.processing
  sound : b.queue.Sound → b'.queue.Sound

theorem PutsOff.spares (later : PutsOff k delay b b') : Spares b b' := by
  cases later with
  | atOnce => exact ⟨rfl, Queue.processing_add k, fun sound => sound.add k⟩
  | later => exact ⟨rfl, rfl, id⟩

theorem Settles.spares {least : Span} (settles : Settles least k b r b') : Spares b b' := by
  cases settles with
  | rests => exact ⟨rfl, rfl, id⟩
  | requeues again => exact ⟨again.spares.holding, again.spares.processing, again.spares.sound⟩
  | retries _ _ again => exact ⟨again.spares.holding, again.spares.processing, again.spares.sound⟩
  | leaves => exact ⟨rfl, rfl, id⟩
  | drops => exact ⟨rfl, rfl, id⟩

theorem spares_served (b : Books) (id : Nat) (d : Deferral) : Spares b (b.served id d) := by
  unfold Books.served
  split
  · exact ⟨rfl, rfl, fun sound => sound⟩
  · split
    · exact ⟨rfl, Queue.processing_add d.key, fun sound => sound.add d.key⟩
    · exact ⟨rfl, rfl, fun sound => sound⟩

/-- An entry about no key in hand leaves the keys in hand. -/
theorem InHand.of_spares (inHand : InHand log b.queue b.holding) (spares : Spares b b')
    (hands : ∀ k, mark.hands k = false) (returns : ∀ k, mark.returns k = false) :
    InHand (log ++ [mark]) b'.queue b'.holding := by
  rw [spares.holding]
  refine ⟨spares.sound inHand.sound, ?_, inHand.single, fun k => ?_⟩
  · rw [spares.processing]
    exact inHand.held
  · rw [spares.processing, List.countP_append, List.countP_append]
    simpa [hands, returns] using inHand.returned k

/-- A key that waits is handed out to someone who holds none. -/
theorem InHand.begins (inHand : InHand log b.queue b.holding) {id : Nat} {rest : List Key}
    (idle : b.holding id = none) (first : b.queue.waiting = k :: rest) :
    InHand (log ++ [.began k]) (b.queue.taken k rest)
      (Function.update b.holding id (some k)) := by
  have free : b.queue.processing.contains k = false :=
    inHand.sound.free k (first ▸ List.mem_cons_self)
  have nobody (j : Nat) : b.holding j ≠ some k := fun holds => by
    rw [(inHand.held k).mpr ⟨j, holds⟩] at free
    contradiction
  refine ⟨inHand.sound.taken first, fun j => ?_, fun {j one other} here there => ?_, fun j => ?_⟩
  · simp only [Queue.taken, Table.contains_insert, Bool.or_eq_true, decide_eq_true_eq]
    rw [inHand.held j]
    constructor
    · rintro (rfl | ⟨other, holds⟩)
      · exact ⟨id, Function.update_self ..⟩
      · refine ⟨other, ?_⟩
        rw [Function.update_of_ne (fun same => by rw [same, idle] at holds; cases holds)]
        exact holds
    · rintro ⟨other, holds⟩
      by_cases same : other = id
      · rw [same, Function.update_self] at holds
        exact .inl (Option.some.inj holds).symm
      · rw [Function.update_of_ne same] at holds
        exact .inr ⟨other, holds⟩
  · by_cases first : one = id <;> by_cases second : other = id
    · rw [first, second]
    · rw [first, Function.update_self] at here
      rw [Function.update_of_ne second, ← here] at there
      exact absurd there (nobody other)
    · rw [second, Function.update_self] at there
      rw [Function.update_of_ne first, ← there] at here
      exact absurd here (nobody one)
    · rw [Function.update_of_ne first] at here
      rw [Function.update_of_ne second] at there
      exact inHand.single here there
  · have before := inHand.returned j
    rw [List.countP_append, List.countP_append]
    by_cases same : j = k
    · subst same
      simp_all [Queue.taken, Table.contains_insert, Mark.hands, Mark.returns]
    · simp_all [Queue.taken, Table.contains_insert, Mark.hands, Mark.returns, Ne.symm same]

/-- A key that is held is given back by the one who holds it. -/
theorem InHand.ends (inHand : InHand log b.queue b.holding) {id : Nat}
    (held : b.holding id = some k) :
    InHand (log ++ [.ended k r]) (b.queue.done k).1 (Function.update b.holding id none) := by
  have busy : b.queue.processing.contains k = true := (inHand.held k).mpr ⟨id, held⟩
  refine ⟨inHand.sound.done busy, fun j => ?_, fun {j one other} here there => ?_, fun j => ?_⟩
  · rw [Queue.processing_done]
    simp only [Table.contains_erase, Bool.and_eq_true, Bool.not_eq_true', decide_eq_false_iff_not]
    rw [inHand.held j]
    constructor
    · rintro ⟨other, one, holds⟩
      refine ⟨one, ?_⟩
      rw [Function.update_of_ne (fun same => ?_)]
      · exact holds
      · rw [same, held] at holds
        exact other (Option.some.inj holds).symm
    · rintro ⟨one, holds⟩
      have apart : one ≠ id := fun same => by
        rw [same, Function.update_self] at holds
        cases holds
      rw [Function.update_of_ne apart] at holds
      refine ⟨fun same => apart ?_, one, holds⟩
      rw [same] at holds
      exact inHand.single holds held
  · have apart {n : Nat} (holds : Function.update b.holding id none n = some j) : n ≠ id :=
      fun same => by
        rw [same, Function.update_self] at holds
        cases holds
    rw [Function.update_of_ne (apart here)] at here
    rw [Function.update_of_ne (apart there)] at there
    exact inHand.single here there
  · have before := inHand.returned j
    rw [List.countP_append, List.countP_append, Queue.processing_done]
    by_cases same : j = k
    · subst same
      simp_all [Table.contains_erase, Mark.hands, Mark.returns]
    · simp_all [Table.contains_erase, Mark.hands, Mark.returns, Ne.symm same]

/-- A key that waits may be handed out and given back at once. -/
theorem InHand.declines (inHand : InHand log b.queue b.holding) {rest : List Key}
    (first : b.queue.waiting = k :: rest) :
    InHand (log ++ [.declined k]) ((b.queue.taken k rest).done k).1 b.holding := by
  have free : b.queue.processing.contains k = false :=
    inHand.sound.free k (first ▸ List.mem_cons_self)
  have processing (j : Key) : ((b.queue.taken k rest).done k).1.processing.contains j =
      b.queue.processing.contains j := by
    rw [Queue.processing_done, Queue.taken, Table.contains_erase, Table.contains_insert]
    by_cases same : j = k <;> simp [same, free]
  refine ⟨(inHand.sound.taken first).done ?_, fun j => ?_, inHand.single, fun j => ?_⟩
  · simp [Queue.taken, Table.contains_insert]
  · rw [processing]
    exact inHand.held j
  · have before := inHand.returned j
    have same : Mark.hands j (.declined k) = Mark.returns j (.declined k) := rfl
    rw [List.countP_append, List.countP_append, processing, List.countP_singleton,
      List.countP_singleton, same]
    omega

/-- Every entry keeps account of the keys in hand. -/
theorem Entry.inHand (entry : Entry least b mark b') (inHand : InHand log b.queue b.holding) :
    InHand (log ++ [mark]) b'.queue b'.holding := by
  have calm (spares : Spares b b') : InHand (log ++ [.quiet]) b'.queue b'.holding :=
    inHand.of_spares spares (fun _ => rfl) fun _ => rfl
  cases entry with
  | passes => exact calm ⟨rfl, rfl, id⟩
  | adds keys => exact calm ⟨rfl, Queue.processing_addAll keys, fun sound => sound.addAll keys⟩
  | closes => exact calm ⟨rfl, rfl, fun sound => ⟨sound.once, sound.marked, sound.free⟩⟩
  | delays later => exact inHand.of_spares later.spares (fun _ => rfl) fun _ => rfl
  | @serves id d there => exact calm (spares_served b id d)
  | begins idle first => exact inHand.begins idle first
  | declines first => exact inHand.declines first
  | @ends id k r b' held settles =>
    have spares := settles.spares
    have inHand : InHand log b'.queue b'.holding :=
      ⟨spares.sound inHand.sound, by rw [spares.processing, spares.holding]; exact inHand.held,
        by rw [spares.holding]; exact inHand.single, by rw [spares.processing]; exact inHand.returned⟩
    exact inHand.ends (by rw [spares.holding]; exact held)

/-! ## The failures -/

theorem PutsOff.backoff (later : PutsOff k delay b b') : b'.backoff = b.backoff := by
  cases later <;> rfl

/-- What a result makes of the failures of a key. -/
def countAfter (r : Except Failure Action) (n : UInt32) : UInt32 :=
  if startsOver r then 0 else if setsBack r then Backoff.succ n else n

/-- The result of a pass over a key changes the failures of that key alone, and no bounds. -/
theorem Settles.backoff {least : Span} (settles : Settles least k b r b') :
    b'.backoff.base = b.backoff.base ∧ b'.backoff.max = b.backoff.max ∧
      ∀ j, b'.backoff.failuresOf j =
        if j = k then countAfter r (b.backoff.failuresOf k) else b.backoff.failuresOf j := by
  cases settles with
  | rests => exact ⟨rfl, rfl, b.backoff.failuresOf_reset k⟩
  | requeues again =>
    rw [again.backoff]
    exact ⟨rfl, rfl, b.backoff.failuresOf_reset k⟩
  | @retries f delay b' counts within again =>
    rw [again.backoff]
    refine ⟨rfl, rfl, fun j => ?_⟩
    have going : startsOver (.error f) = false := by
      cases f <;> simp_all [setsBack, startsOver]
    rw [countAfter, going, counts]
    exact b.backoff.failuresOf_fail k j
  | leaves t =>
    refine ⟨rfl, rfl, fun j => ?_⟩
    split
    · next same =>
      rw [same]
      rfl
    · rfl
  | @drops f hopeless =>
    refine ⟨rfl, rfl, fun j => ?_⟩
    have anew : startsOver (.error f) = true := by simp [startsOver, hopeless]
    rw [countAfter, anew]
    exact b.backoff.failuresOf_reset k j

/-- One result more is counted as its kind says. -/
theorem toNat_countAfter {results : List (Except Failure Action)} {n : UInt32}
    (counted : n.toNat = min (inARow results) (UInt32.size - 1)) (r : Except Failure Action) :
    (countAfter r n).toNat = min (inARow (results ++ [r])) (UInt32.size - 1) := by
  rw [inARow_snoc, countAfter]
  split
  · rfl
  · split
    · rw [Backoff.toNat_succ, counted]
      omega
    · exact counted

/-- An entry that ends no pass leaves the failures. -/
theorem Counted.of_same (counted : Counted base greatest log b.backoff)
    (same : b'.backoff = b.backoff) (none : ∀ k, inARow (resultsOf k (log ++ [mark])) =
      inARow (resultsOf k log)) :
    Counted base greatest (log ++ [mark]) b'.backoff := by
  rw [same]
  refine ⟨counted.base, counted.greatest, fun k => ?_⟩
  rw [none]
  exact counted.failures k

/-- Every entry keeps account of the failures. -/
theorem Entry.counted (entry : Entry least b mark b')
    (counted : Counted base greatest log b.backoff) :
    Counted base greatest (log ++ [mark]) b'.backoff := by
  have calm (same : b'.backoff = b.backoff) : Counted base greatest (log ++ [.quiet]) b'.backoff :=
    counted.of_same same fun k => by simp [resultsOf_snoc, Mark.result?]
  cases entry with
  | passes | adds | closes => exact calm rfl
  | @serves id d there =>
    apply calm
    unfold Books.served
    split
    · rfl
    · split <;> rfl
  | delays later =>
    exact counted.of_same later.backoff fun k => by simp [resultsOf_snoc, Mark.result?]
  | begins => exact counted.of_same rfl fun k => by simp [resultsOf_snoc, Mark.result?]
  | @declines k rest first =>
    refine counted.of_same rfl fun j => ?_
    rw [resultsOf_snoc]
    by_cases same : k = j
    · simp [Mark.result?, same, inARow_snoc]
    · simp [Mark.result?, same]
  | @ends id k r b' held settles =>
    obtain ⟨base, greatest, failures⟩ := settles.backoff
    refine ⟨base.trans counted.base, greatest.trans counted.greatest, fun j => ?_⟩
    have before := counted.failures j
    simp only [failures j, resultsOf_snoc, Mark.result?]
    by_cases same : j = k
    · subst same
      simpa using toNat_countAfter before r
    · simpa [same, Ne.symm same] using before

end Controller

end TokenSteward
