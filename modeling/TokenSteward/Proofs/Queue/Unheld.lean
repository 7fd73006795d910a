import Mathlib.Tactic.ByContra
import TokenSteward.Proofs.Cluster.Listing
import TokenSteward.Proofs.Queue.Course

/-! # Keys given back by those who do not hold them

A queue does not ask who gives a key back, and reads from its mark alone whether it has to wait again.
But a key is marked for two reasons: it waits, or it has come again while it is worked on. So a key
that waits comes to wait a second time if someone gives it back who does not hold it, and then two
workers are handed it at once. This is the only harm that can be done: any other key that nobody holds
may be given back at any time and nothing changes, and as long as no key is given back while it waits
in the open queue, each waits once and is handed out to one worker at a time.
-/

namespace TokenSteward

theorem Table.erase_of_absent {κ ν : Type} [Ordered κ] {t : Table κ ν} {k : κ}
    (absent : t.contains k = false) : t.erase k = t := by
  have others : ∀ e ∈ t.entries, (before e.1 k || before k e.1) = true := by
    intro e present
    by_contra neither
    simp only [Bool.or_eq_true, not_or, Bool.not_eq_true] at neither
    obtain ⟨a, v⟩ := e
    obtain rfl : a = k := Ordered.same neither.1 neither.2
    simp [contains, get?, lookup_of_mem t.ascending present] at absent
  have same := List.filter_eq_self.mpr others
  cases t
  unfold erase
  congr 1

namespace Queue

open TokenSteward.Resource

/-- Whether a call does not give back a key that waits in the open queue. -/
def Call.spares (q : Queue) : Call → Bool
  | done k => q.closed || !q.waiting.contains k
  | _ => true

/-- Whether none of some calls gives back a key that waits in the open queue then. -/
def spared (q : Queue) : List Call → Bool
  | [] => true
  | call :: rest => call.spares q && (call.next q).spared rest

variable {q : Queue} {k : Key}

/-- A key that nobody holds comes to wait if it is given back while it is marked in the open queue.
Nothing else changes. -/
theorem done_of_free (free : q.processing.contains k = false) :
    (q.done k).1 =
      { q with waiting := q.waiting ++ if q.marked.contains k && !q.closed then [k] else [] } := by
  unfold done
  rw [Table.erase_of_absent free]
  dsimp only
  split
  · rfl
  · simp

/-- In any state, a key that nobody holds may be given back unless it waits in the open queue. -/
theorem Mindful.done_cases (mindful : q.Mindful) (free : q.processing.contains k = false) :
    (q.done k).1 = q ∨
      q.closed = false ∧ k ∈ q.waiting ∧ (q.done k).1 = { q with waiting := q.waiting ++ [k] } := by
  rw [done_of_free free]
  cases again : q.marked.contains k && !q.closed with
  | false => exact .inl (by simp)
  | true =>
    rw [Bool.and_eq_true, Bool.not_eq_true'] at again
    refine .inr ⟨again.2, (mindful again.2 k again.1).resolve_right fun busy => ?_, rfl⟩
    rw [free] at busy
    exact absurd busy.1 (by decide)

theorem Sound.spared_next (sound : q.Sound) (mindful : q.Mindful) {call : Call}
    (spares : call.spares q = true) : (call.next q).Sound := by
  cases call with
  | done k =>
    by_cases busy : q.processing.contains k = true
    · exact sound.done busy
    · rcases mindful.done_cases (by simpa using busy) with same | ⟨opened, waits, _⟩
      · rwa [Call.next, same]
      · simp [Call.spares, opened, waits] at spares
  | add k => exact sound.add k
  | take => exact sound.next (by simp)
  | close => exact sound.next (by simp)

/-- A call after which each key still waits once is one that spares those that wait. -/
theorem Sound.spares_of_nodup (sound : q.Sound) {call : Call} (once : (call.next q).waiting.Nodup) :
    call.spares q = true := by
  cases call with
  | done k =>
    by_contra harms
    simp only [Call.spares, Bool.or_eq_true, Bool.not_eq_true', not_or, Bool.not_eq_true,
      Bool.not_eq_false, List.contains_iff_mem] at harms
    obtain ⟨opened, waits⟩ := harms
    rw [Call.next, done_of_free (sound.free k waits)] at once
    simp only [sound.marked k waits, opened, Bool.not_false, Bool.and_true, if_true] at once
    exact (List.nodup_append.mp once).2.2 k waits k List.mem_cons_self rfl
  | _ => rfl

theorem Sound.spared_after (sound : q.Sound) (mindful : q.Mindful) {calls : List Call}
    (spared : q.spared calls = true) : (q.after calls).Sound := by
  induction calls generalizing q with
  | nil => exact sound
  | cons call rest ih =>
    rw [Queue.spared, Bool.and_eq_true] at spared
    exact ih (sound.spared_next mindful spared.1) (mindful.next call) spared.2

theorem spared_append (early late : List Call) :
    q.spared (early ++ late) = (q.spared early && (q.after early).spared late) := by
  induction early generalizing q with
  | nil => rfl
  | cons call rest ih => rw [List.cons_append, spared, spared, ih, Bool.and_assoc, after_cons]

/-- Each key waits once at all times just if no call gives back a key that waits in the open queue. -/
theorem Sound.nodup_iff_spared (sound : q.Sound) (mindful : q.Mindful) (calls : List Call) :
    (∀ early late, calls = early ++ late → (q.after early).waiting.Nodup) ↔ q.spared calls = true := by
  induction calls generalizing q with
  | nil =>
    refine iff_of_true (fun early late same => ?_) rfl
    obtain ⟨rfl, -⟩ := List.append_eq_nil_iff.mp same.symm
    exact sound.once
  | cons call rest ih =>
    rw [spared, Bool.and_eq_true]
    constructor
    · intro once
      have spares := sound.spares_of_nodup (once [call] rest rfl)
      refine ⟨spares, (ih (sound.spared_next mindful spares) (mindful.next call)).mp ?_⟩
      rintro early late rfl
      exact once (call :: early) late rfl
    · rintro ⟨spares, later⟩ early late same
      cases early with
      | nil => exact sound.once
      | cons first early =>
        obtain ⟨rfl, rfl⟩ := List.cons.inj same
        exact (ih (sound.spared_next mindful spares) (mindful.next call)).mpr later early late rfl

/-- Whatever calls have been made, giving back a key that nobody holds changes nothing, unless the key
waits in the open queue: then it waits once more. Exactly if this never happens each key waits once,
and then no key is handed out again before it was given back. -/
theorem spared_iff_once (calls : List Call) :
    (∀ k, ¬ empty.Held calls k → ((empty.after calls).done k).1 = empty.after calls ∨
      (empty.after calls).closed = false ∧ k ∈ (empty.after calls).waiting ∧
        ((empty.after calls).done k).1 =
          { empty.after calls with waiting := (empty.after calls).waiting ++ [k] }) ∧
    ((∀ early late, calls = early ++ late → (empty.after early).waiting.Nodup) ↔
      empty.spared calls = true) ∧
    (empty.spared calls = true → ∀ early mid late k,
      calls = early ++ .take :: (mid ++ .take :: late) → (empty.after early).take.1 = .key k →
      (empty.after (early ++ .take :: mid)).take.1 = .key k → .done k ∈ mid) := by
  refine ⟨fun k unheld => ?_, sound_empty.nodup_iff_spared mindful_empty calls, ?_⟩
  · rw [held_iff_processing, Bool.not_eq_true] at unheld
    exact (mindful_empty.after calls).done_cases unheld
  · intro spared early mid late k same first second
    by_contra kept
    rw [same, ← List.cons_append, ← List.append_assoc, spared_append, Bool.and_eq_true] at spared
    exact (sound_empty.spared_after mindful_empty spared.1).not_held second ⟨early, mid, rfl, first, kept⟩

/-- A key is given back before it has come, twice after it was handed out, and while it waits after the
end. -/
def carelessDay : List Call :=
  let git : Key := ⟨"dev", "git"⟩
  [.done git, .add git, .take, .add git, .done git, .take, .done git, .done git, .add git, .close,
    .done git, .take, .take]

theorem spared_iff_once_example :
    (empty.after (carelessDay.take 10)).waiting.Nodup ∧
      (empty.after (carelessDay.take 2)).take.1 = .key ⟨"dev", "git"⟩ ∧
      (empty.after (carelessDay.take 5)).take.1 = .key ⟨"dev", "git"⟩ ∧
      .done ⟨"dev", "git"⟩ ∈ (carelessDay.take 5).drop 3 := by
  have spared : empty.spared carelessDay = true := by decide +kernel
  have first : (empty.after (carelessDay.take 2)).take.1 = .key ⟨"dev", "git"⟩ := by decide +kernel
  have second : (empty.after (carelessDay.take 5)).take.1 = .key ⟨"dev", "git"⟩ := by decide +kernel
  obtain ⟨_, once, apart⟩ := spared_iff_once carelessDay
  exact ⟨once.mpr spared _ (carelessDay.drop 10) rfl, first, second,
    apart spared (carelessDay.take 2) ((carelessDay.take 5).drop 3) (carelessDay.drop 6) _ rfl first
      second⟩

/-- Nobody holds a key that has just come; given back, it waits twice and is handed out twice. -/
theorem exists_handed_twice : ∃ k, ¬ empty.Held [.add k] k ∧
    ((empty.after [.add k]).done k).1.waiting ≠ (empty.after [.add k]).waiting ∧
    (empty.after [.add k, .done k]).take.1 = .key k ∧
    (empty.after [.add k, .done k, .take]).take.1 = .key k := by
  refine ⟨⟨"dev", "git"⟩, ?_, ?_, ?_, ?_⟩
  · rw [held_iff_processing]
    decide +kernel
  · decide +kernel
  · decide +kernel
  · decide +kernel

end Queue

end TokenSteward
