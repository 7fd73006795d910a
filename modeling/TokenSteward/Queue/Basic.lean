import TokenSteward.Resource.Key
import TokenSteward.Text.Described

/-! # Work queues

A queue hands out keys in the order in which they came. A key that is added while it waits is not
added again; one that is added while it is handed out is only marked, and waits again once it is
done. So no two workers hold one key, and no wish to look at a key is lost.
-/

namespace TokenSteward.Queue

open TokenSteward.Resource TokenSteward.Text

/-- A set of keys. -/
abbrev KeySet := Table Key Unit

/-- What a try to get a key brings. -/
inductive Handout where
  | key (k : Key)
  | nothing
  | closed
deriving DecidableEq, Repr

end TokenSteward.Queue

namespace TokenSteward

open TokenSteward.Resource TokenSteward.Text

/-- A work queue (`WorkQueue`): the keys that wait (`queue`), those that are marked (`dirty`), those that
are handed out (`processing`), and whether it takes in no more (`shutting_down`). A marked key waits, or
has to wait again once it is done. -/
structure Queue where
  waiting : List Key
  marked : Queue.KeySet
  processing : Queue.KeySet
  closed : Bool

namespace Queue

/-- The queue without keys. -/
def empty : Queue := ⟨[], Table.empty, Table.empty, false⟩

instance : Inhabited Queue := ⟨empty⟩

/-- Adds a key, and tells whether it came to wait. -/
def add (q : Queue) (k : Key) : Queue × Bool :=
  if q.closed || q.marked.contains k then (q, false)
  else
    let q := { q with marked := q.marked.insert k () }
    if q.processing.contains k then (q, false)
    else ({ q with waiting := q.waiting ++ [k] }, true)

/-- Takes the key that has waited longest, as one round of `get` does. -/
def take (q : Queue) : Handout × Queue :=
  match q.waiting with
  | k :: rest =>
    (.key k, { q with
      waiting := rest
      marked := q.marked.erase k
      processing := q.processing.insert k () })
  | [] => (if q.closed then .closed else .nothing, q)

/-- Gives a key back, and tells whether it came to wait again. -/
def done (q : Queue) (k : Key) : Queue × Bool :=
  let q := { q with processing := q.processing.erase k }
  if q.marked.contains k && !q.closed then ({ q with waiting := q.waiting ++ [k] }, true)
  else (q, false)

/-- The queue that takes in no more keys (`shutdown`). -/
def close (q : Queue) : Queue := { q with closed := true }

/-- What a log shows of a queue. -/
def describe (q : Queue) : String :=
  recordText "WorkQueue" [("queued", Number.natText q.waiting.length),
    ("processing", Number.natText q.processing.size), ("shutting_down", boolText q.closed)]

end Queue

end TokenSteward
