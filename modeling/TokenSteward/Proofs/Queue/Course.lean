import TokenSteward.Proofs.Queue.Flight

/-! # The course of a queue

Those who share a queue call it in any order. Whatever the order, no key is held twice at once, a key
that is asked for is handed out or still due, keys go out in the order in which they came to wait, and
a closed queue hands out no more than waits in it. Who waits for a key takes again each time they are
woken, so that a wait is some calls that bring nothing and one that ends it.
-/

namespace TokenSteward.Queue

open TokenSteward.Resource

/-- A call of a queue. -/
inductive Call where
  | add (k : Key)
  | take
  | done (k : Key)
  | close
deriving DecidableEq, Repr

namespace Call

/-- The queue after a call. -/
def next (q : Queue) : Call → Queue
  | add k => (q.add k).1
  | take => q.take.2
  | done k => (q.done k).1
  | close => q.close

/-- What a call brings: nothing but a taking brings something. -/
def brings (q : Queue) : Call → List Handout
  | take => [q.take.1]
  | _ => []

/-- The key that comes to wait by a call, if one does. -/
def enters (q : Queue) : Call → List Key
  | add k => if (q.add k).2 then [k] else []
  | done k => if (q.done k).2 then [k] else []
  | _ => []

end Call

/-- The key that is handed out, if one is. -/
def Handout.key? : Handout → Option Key
  | .key k => some k
  | _ => none

/-- The queue after some calls. -/
def after (q : Queue) (calls : List Call) : Queue := calls.foldl Call.next q

/-- All that some calls bring. -/
def handouts (q : Queue) : List Call → List Handout
  | [] => []
  | call :: rest => call.brings q ++ (call.next q).handouts rest

/-- The keys that some calls hand out, the earliest first. -/
def handed (q : Queue) (calls : List Call) : List Key := (q.handouts calls).filterMap Handout.key?

/-- The keys that come to wait by some calls, the earliest first. -/
def entered (q : Queue) : List Call → List Key
  | [] => []
  | call :: rest => call.enters q ++ (call.next q).entered rest

/-- A taking among some calls hands out a key. -/
def HandsOut (q : Queue) (calls : List Call) (k : Key) : Prop :=
  ∃ early late, calls = early ++ .take :: late ∧ (q.after early).take.1 = .key k

/-- A key was handed out by some calls and has not been given back since. -/
def Held (q : Queue) (calls : List Call) (k : Key) : Prop :=
  ∃ early late, calls = early ++ .take :: late ∧ (q.after early).take.1 = .key k ∧ .done k ∉ late

/-- Only a key that is held is given back. -/
def Mannerly (calls : List Call) : Prop :=
  ∀ early k late, calls = early ++ .done k :: late → empty.Held early k

/-- A key waits, or has to wait again once it is given back. -/
def Due (q : Queue) (k : Key) : Prop :=
  k ∈ q.waiting ∨ q.processing.contains k = true ∧ q.marked.contains k = true

/-- What a queue owes those who call it. -/
structure Serves (calls : List Call) : Prop where
  /-- No key waits twice. -/
  once : (empty.after calls).waiting.Nodup
  /-- No key that waits is being worked on. -/
  apart : ∀ k ∈ (empty.after calls).waiting, (empty.after calls).processing.contains k = false
  /-- Between two hand-outs of a key it is given back. -/
  single : ∀ early mid late k, calls = early ++ .take :: (mid ++ .take :: late) →
    (empty.after early).take.1 = .key k →
    (empty.after (early ++ .take :: mid)).take.1 = .key k → .done k ∈ mid
  /-- A key added before the end is handed out later, or still due, or was due again at the end. -/
  granted : ∀ early k late, calls = early ++ .add k :: late → .close ∉ early →
    (empty.after (early ++ [.add k])).HandsOut late k ∨ (empty.after calls).Due k ∨
      ∃ mid rest, late = mid ++ .close :: rest ∧ .close ∉ mid ∧
        (empty.after (early ++ .add k :: mid)).processing.contains k = true ∧
        (empty.after (early ++ .add k :: mid)).marked.contains k = true
  /-- Keys are handed out in the order in which they came to wait. -/
  inOrder : empty.entered calls = empty.handed calls ++ (empty.after calls).waiting
  /-- After the end no key comes to wait. -/
  shut : ∀ early late, calls = early ++ .close :: late →
    (empty.after (early ++ [.close])).entered late = []
  /-- After the end takings bring the keys that wait then, and after these only the end. -/
  ending : ∀ early late, calls = early ++ .close :: late →
    (empty.after (early ++ [.close])).handouts late =
      ((empty.after early).waiting.take (late.count .take)).map Handout.key ++
        List.replicate (late.count .take - (empty.after early).waiting.length) Handout.closed

variable {q : Queue} {k : Key}

@[simp] theorem after_nil : q.after [] = q := rfl

@[simp] theorem after_cons (call : Call) (rest : List Call) :
    q.after (call :: rest) = (call.next q).after rest := rfl

theorem after_append (early late : List Call) :
    q.after (early ++ late) = (q.after early).after late :=
  List.foldl_append

/-! ## What one call does -/

theorem take_nil (nobody : q.waiting = []) :
    q.take = (if q.closed then .closed else .nothing, q) := by
  simp [take, nobody]

theorem take_cons {rest : List Key} (waits : q.waiting = k :: rest) :
    q.take = (.key k, q.taken k rest) := by
  simp [take, waits, taken]

/-- A taking that brings a key brings the first that waits. -/
theorem waiting_of_take (brought : q.take.1 = .key k) :
    ∃ rest, q.waiting = k :: rest ∧ q.take.2 = q.taken k rest := by
  cases waits : q.waiting with
  | nil =>
    rw [take_nil waits] at brought
    dsimp only at brought
    split at brought <;> contradiction
  | cons j rest =>
    rw [take_cons waits] at brought
    obtain rfl : j = k := Handout.key.inj brought
    exact ⟨rest, rfl, congrArg Prod.snd (take_cons waits)⟩

theorem processing_take (j : Key) :
    q.take.2.processing.contains j = (decide (q.take.1 = .key j) || q.processing.contains j) := by
  cases waits : q.waiting with
  | nil =>
    rw [take_nil waits]
    dsimp only
    split <;> simp
  | cons k rest =>
    rw [take_cons waits]
    simp [taken, Table.contains_insert, eq_comm]

/-- What waited before a call and what comes by it is what it hands out and what waits after it. -/
theorem waiting_next (call : Call) :
    q.waiting ++ call.enters q = (call.brings q).filterMap Handout.key? ++ (call.next q).waiting := by
  cases call with
  | add k =>
    simp only [Call.enters, Call.brings, Call.next, add, List.filterMap_nil, List.nil_append]
    split
    · simp
    · split <;> simp
  | take =>
    simp only [Call.enters, Call.brings, Call.next, List.append_nil]
    cases waits : q.waiting with
    | nil =>
      rw [take_nil waits]
      dsimp only
      split <;> simp [Handout.key?, waits]
    | cons k rest =>
      rw [take_cons waits]
      simp [Handout.key?, taken]
  | done k =>
    simp only [Call.enters, Call.brings, Call.next, done, List.filterMap_nil, List.nil_append]
    split <;> simp
  | close => simp [Call.enters, Call.brings, Call.next, close]

theorem closed_take : q.take.2.closed = q.closed := by
  cases waits : q.waiting with
  | nil => rw [take_nil waits]
  | cons k rest => rw [take_cons waits]; rfl

theorem closed_next_of_ne {call : Call} (other : call ≠ .close) : (call.next q).closed = q.closed := by
  cases call with
  | add k => exact closed_add k
  | take => exact closed_take
  | done k => exact closed_done k
  | close => exact absurd rfl other

theorem closed_next (call : Call) (closed : q.closed = true) : (call.next q).closed = true := by
  by_cases last : call = .close
  · subst last
    rfl
  · exact (closed_next_of_ne last).trans closed

theorem opened_after (opened : q.closed = false) {calls : List Call} (going : .close ∉ calls) :
    (q.after calls).closed = false := by
  induction calls generalizing q with
  | nil => exact opened
  | cons call rest ih =>
    rw [List.mem_cons, not_or] at going
    exact ih ((closed_next_of_ne (Ne.symm going.1)).trans opened) going.2

theorem enters_closed (closed : q.closed = true) (call : Call) : call.enters q = [] := by
  cases call <;> simp [Call.enters, add, done, closed]

/-! ## One holder at a time -/

theorem held_cons (call : Call) (rest : List Call) :
    q.Held (call :: rest) k ↔
      (call = .take ∧ q.take.1 = .key k ∧ .done k ∉ rest) ∨ (call.next q).Held rest k := by
  constructor
  · rintro ⟨early, late, same, brought, kept⟩
    cases early with
    | nil =>
      obtain ⟨rfl, rfl⟩ := List.cons.inj same
      exact .inl ⟨rfl, brought, kept⟩
    | cons first early =>
      obtain ⟨rfl, rfl⟩ := List.cons.inj same
      exact .inr ⟨early, late, rfl, brought, kept⟩
  · rintro (⟨rfl, brought, kept⟩ | ⟨early, late, rfl, brought, kept⟩)
    · exact ⟨[], rest, rfl, brought, kept⟩
    · exact ⟨call :: early, late, rfl, brought, kept⟩

/-- The keys that are worked on after some calls are those that are held, and those that were worked
on before and have not been given back. -/
theorem processing_after (calls : List Call) :
    (q.after calls).processing.contains k = true ↔
      q.Held calls k ∨ q.processing.contains k = true ∧ .done k ∉ calls := by
  induction calls generalizing q with
  | nil => simp [Held]
  | cons call rest ih =>
    rw [after_cons, ih, held_cons]
    cases call with
    | add j => simp [Call.next, processing_add]
    | take =>
      simp only [Call.next, processing_take, Bool.or_eq_true, decide_eq_true_eq, true_and,
        List.mem_cons, reduceCtorEq, false_or]
      grind
    | done j =>
      simp only [Call.next, processing_done, Table.contains_erase, Bool.and_eq_true,
        Bool.not_eq_true', decide_eq_false_iff_not, List.mem_cons, Call.done.injEq, not_or,
        reduceCtorEq, false_and, false_or]
      grind
    | close => simp [Call.next, close]

theorem held_iff_processing (calls : List Call) :
    empty.Held calls k ↔ (empty.after calls).processing.contains k = true := by
  rw [processing_after]
  simp [empty, Table.contains]

theorem Sound.next (sound : q.Sound) {call : Call}
    (mannerly : ∀ k, call = .done k → q.processing.contains k = true) : (call.next q).Sound := by
  cases call with
  | add k => exact sound.add k
  | take =>
    rw [Call.next]
    cases waits : q.waiting with
    | nil => rwa [take_nil waits]
    | cons k rest =>
      rw [take_cons waits]
      exact sound.taken waits
  | done k => exact sound.done (mannerly k rfl)
  | close => exact ⟨sound.once, sound.marked, sound.free⟩

theorem Sound.after (sound : q.Sound) {calls : List Call}
    (mannerly : ∀ early k late, calls = early ++ .done k :: late →
      (q.after early).processing.contains k = true) : (q.after calls).Sound := by
  induction calls generalizing q with
  | nil => exact sound
  | cons call rest ih =>
    apply ih
    · apply sound.next
      intro k same
      exact mannerly [] k rest (same ▸ rfl)
    · intro early k late same
      exact mannerly (call :: early) k late (same ▸ rfl)

theorem Mannerly.of_append {early late : List Call} (mannerly : Mannerly (early ++ late)) :
    Mannerly early := by
  intro before k rest same
  apply mannerly before k (rest ++ late)
  simp [same]

theorem Mannerly.sound {calls : List Call} (mannerly : Mannerly calls) :
    (empty.after calls).Sound := by
  apply sound_empty.after
  intro before k rest same
  rw [← held_iff_processing]
  exact mannerly before k rest same

/-- Whether a key that a call gives back is being worked on. -/
def Call.fits (q : Queue) : Call → Bool
  | done k => q.processing.contains k
  | _ => true

/-- Whether every key that is given back is being worked on then. -/
def allFit (q : Queue) : List Call → Bool
  | [] => true
  | call :: rest => call.fits q && allFit (call.next q) rest

theorem allFit_iff (calls : List Call) : allFit q calls = true ↔
    ∀ early k late, calls = early ++ .done k :: late →
      (q.after early).processing.contains k = true := by
  induction calls generalizing q with
  | nil => simp [allFit]
  | cons call rest ih =>
    rw [allFit, Bool.and_eq_true, ih]
    constructor
    · rintro ⟨first, later⟩ early k late same
      cases early with
      | nil =>
        obtain ⟨rfl, rfl⟩ := List.cons.inj same
        exact first
      | cons other early =>
        obtain ⟨rfl, rfl⟩ := List.cons.inj same
        exact later early k late rfl
    · intro all
      constructor
      · cases call with
        | done k => exact all [] k rest rfl
        | add k => rfl
        | take => rfl
        | close => rfl
      · intro early k late same
        exact all (call :: early) k late (same ▸ rfl)

instance (calls : List Call) : Decidable (Mannerly calls) :=
  decidable_of_iff (allFit empty calls = true) <| by
    rw [allFit_iff]
    simp only [Mannerly, held_iff_processing]

/-- A key that is held is not handed out. -/
theorem Sound.not_held {calls : List Call} (sound : (empty.after calls).Sound)
    (brought : (empty.after calls).take.1 = .key k) : ¬ empty.Held calls k := by
  rw [held_iff_processing]
  obtain ⟨rest, waits, -⟩ := waiting_of_take brought
  rw [sound.free k (waits ▸ List.mem_cons_self)]
  simp

/-! ## Every wish is granted or due -/

/-- A marked key of an open queue waits or is being worked on. -/
def Mindful (q : Queue) : Prop := q.closed = false → ∀ k, q.marked.contains k = true → q.Due k

theorem mindful_empty : Mindful empty := by
  intro _ k marked
  simp [empty, Table.contains] at marked

theorem due_of_marked (marked : q.marked.contains k = true)
    (place : k ∈ q.waiting ∨ q.processing.contains k = true) : q.Due k :=
  place.imp_right fun busy => ⟨busy, marked⟩

/-- A key that is added to an open queue is due. -/
theorem Mindful.due_add (mindful : q.Mindful) (opened : q.closed = false) : (q.add k).1.Due k := by
  have marked : (q.add k).1.marked.contains k = true := by simp [marked_add opened]
  apply due_of_marked marked
  by_cases known : q.marked.contains k = true
  · rcases mindful opened k known with waits | ⟨busy, -⟩
    · exact .inl (by simp [add, known, waits])
    · exact .inr (by rwa [processing_add])
  · by_cases busy : q.processing.contains k = true
    · exact .inr (by rwa [processing_add])
    · exact .inl (by simp [add, opened, known, busy])

/-- A key that waits does so until it is handed out. -/
theorem waits_next (waits : k ∈ q.waiting) (call : Call) :
    (call = .take ∧ q.take.1 = .key k) ∨ k ∈ (call.next q).waiting := by
  have present : k ∈ q.waiting ++ call.enters q := List.mem_append_left _ waits
  rw [waiting_next, List.mem_append] at present
  apply present.imp_left
  intro handed
  cases call with
  | take =>
    refine ⟨rfl, ?_⟩
    cases brought : q.take.1 with
    | key j => simpa [Call.brings, Handout.key?, brought, eq_comm] using handed
    | nothing => simp [Call.brings, Handout.key?, brought] at handed
    | closed => simp [Call.brings, Handout.key?, brought] at handed
  | add j => simp [Call.brings] at handed
  | done j => simp [Call.brings] at handed
  | close => simp [Call.brings] at handed

/-- A key stays marked until it is handed out. -/
theorem marked_next (marked : q.marked.contains k = true) (call : Call) :
    (call = .take ∧ q.take.1 = .key k) ∨ (call.next q).marked.contains k = true := by
  cases call with
  | add j =>
    right
    cases shut : q.closed with
    | false => simp [Call.next, marked_add shut, marked]
    | true => simpa [Call.next, add, shut] using marked
  | take =>
    cases waits : q.waiting with
    | nil => exact .inr (by rwa [Call.next, take_nil waits])
    | cons j rest =>
      rw [Call.next, take_cons waits]
      by_cases same : j = k
      · exact .inl ⟨rfl, same ▸ rfl⟩
      · exact .inr (by simp [taken, Table.contains_erase, Ne.symm same, marked])
  | done j => exact .inr (by rwa [Call.next, marked_done])
  | close => exact .inr marked

/-- A key that is worked on is so until it is given back. -/
theorem processing_next (busy : q.processing.contains k = true) {call : Call}
    (kept : call ≠ .done k) : (call.next q).processing.contains k = true := by
  cases call with
  | add j => rwa [Call.next, processing_add]
  | take => simp [Call.next, processing_take, busy]
  | done j =>
    have other : k ≠ j := fun same => kept (same ▸ rfl)
    simp [Call.next, processing_done, Table.contains_erase, other, busy]
  | close => exact busy

/-- A key that is due stays so until it is handed out, as long as the queue is open. -/
theorem Due.next (due : q.Due k) (opened : q.closed = false) (call : Call) :
    (call = .take ∧ q.take.1 = .key k) ∨ (call.next q).Due k := by
  rcases due with waits | ⟨busy, marked⟩
  · exact (waits_next waits call).imp_right .inl
  · by_cases given : call = .done k
    · subst given
      exact .inr (.inl (by simp [Call.next, done, marked, opened]))
    · exact (marked_next marked call).imp_right fun kept => .inr ⟨processing_next busy given, kept⟩

theorem Mindful.next (mindful : q.Mindful) (call : Call) : (call.next q).Mindful := by
  intro going j marked
  have opened : q.closed = false := by
    cases shut : q.closed with
    | false => rfl
    | true => rw [closed_next call shut] at going; contradiction
  by_cases known : q.marked.contains j = true
  · rcases (mindful opened j known).next opened call with ⟨rfl, brought⟩ | due
    · obtain ⟨rest, waits, taken⟩ := waiting_of_take brought
      rw [Call.next, taken] at marked
      simp [Queue.taken, Table.contains_erase] at marked
    · exact due
  · cases call with
    | add k =>
      rw [Call.next, marked_add opened] at marked
      obtain rfl : j = k := by simpa [known] using marked
      exact mindful.due_add opened
    | take =>
      rcases take_cases q opened with ⟨k, rest, waits, took⟩ | took
      · rw [Call.next, took] at marked
        simp [Queue.taken, Table.contains_erase, known] at marked
      · rw [Call.next, took] at marked
        exact absurd marked known
    | done k => exact absurd (by rwa [Call.next, marked_done] at marked) known
    | close => exact absurd marked known

theorem Mindful.after (mindful : q.Mindful) (calls : List Call) : (q.after calls).Mindful := by
  induction calls generalizing q with
  | nil => exact mindful
  | cons call rest ih => exact ih (mindful.next call)

theorem HandsOut.cons {call : Call} {rest : List Call} (later : (call.next q).HandsOut rest k) :
    q.HandsOut (call :: rest) k := by
  obtain ⟨early, late, rfl, brought⟩ := later
  exact ⟨call :: early, late, rfl, brought⟩

theorem handsOut_take (rest : List Call) (brought : q.take.1 = .key k) :
    q.HandsOut (.take :: rest) k :=
  ⟨[], rest, rfl, brought⟩

/-- A key that waits is handed out by some calls or still waits after them. -/
theorem waits_after (waits : k ∈ q.waiting) (calls : List Call) :
    q.HandsOut calls k ∨ k ∈ (q.after calls).waiting := by
  induction calls generalizing q with
  | nil => exact .inr waits
  | cons call rest ih =>
    rcases waits_next waits call with ⟨rfl, brought⟩ | still
    · exact .inl (handsOut_take rest brought)
    · exact (ih still).imp_left .cons

/-- A key that is due is handed out by some calls, or still due after them, or was to be given back
when they closed the queue. -/
theorem Due.after (due : q.Due k) (opened : q.closed = false) (calls : List Call) :
    q.HandsOut calls k ∨ (q.after calls).Due k ∨
      ∃ mid rest, calls = mid ++ .close :: rest ∧ .close ∉ mid ∧
        (q.after mid).processing.contains k = true ∧ (q.after mid).marked.contains k = true := by
  induction calls generalizing q with
  | nil => exact .inr (.inl due)
  | cons call rest ih =>
    by_cases last : call = .close
    · subst last
      rcases due with waits | unfinished
      · exact (waits_after waits (.close :: rest)).imp_right fun still => .inl (.inl still)
      · exact .inr (.inr ⟨[], rest, rfl, List.not_mem_nil, unfinished⟩)
    · rcases due.next opened call with ⟨rfl, brought⟩ | still
      · exact .inl (handsOut_take rest brought)
      · rcases ih still ((closed_next_of_ne last).trans opened) with
          later | still | ⟨mid, rest, rfl, going, unfinished⟩
        · exact .inl later.cons
        · exact .inr (.inl still)
        · have ongoing : .close ∉ call :: mid := by
            rw [List.mem_cons, not_or]
            exact ⟨Ne.symm last, going⟩
          exact .inr (.inr ⟨call :: mid, rest, rfl, ongoing, unfinished⟩)

/-! ## First come, first served -/

theorem waiting_after (calls : List Call) :
    q.waiting ++ q.entered calls = q.handed calls ++ (q.after calls).waiting := by
  induction calls generalizing q with
  | nil => simp [entered, handed, handouts]
  | cons call rest ih =>
    have first := waiting_next (q := q) call
    have later := ih (q := call.next q)
    simp only [entered, handed, handouts, List.filterMap_append, after_cons] at later ⊢
    rw [← List.append_assoc, first, List.append_assoc, later, List.append_assoc]

/-! ## After the end -/

theorem entered_closed (closed : q.closed = true) (calls : List Call) : q.entered calls = [] := by
  induction calls generalizing q with
  | nil => rfl
  | cons call rest ih => rw [entered, enters_closed closed, ih (closed_next call closed)]; rfl

theorem waiting_closed (closed : q.closed = true) {call : Call} (other : call ≠ .take) :
    (call.next q).waiting = q.waiting := by
  have moved := waiting_next (q := q) call
  rw [enters_closed closed, List.append_nil] at moved
  cases call with
  | take => exact absurd rfl other
  | add k => exact moved.symm
  | done k => exact moved.symm
  | close => rfl

theorem handouts_closed (closed : q.closed = true) (calls : List Call) :
    q.handouts calls = (q.waiting.take (calls.count .take)).map Handout.key ++
      List.replicate (calls.count .take - q.waiting.length) Handout.closed := by
  induction calls generalizing q with
  | nil => simp [handouts]
  | cons call rest ih =>
    have later := ih (closed_next call closed)
    by_cases taking : call = .take
    · subst taking
      rw [handouts, later, List.count_cons_self]
      cases waits : q.waiting with
      | nil =>
        rw [Call.brings, Call.next, take_nil waits]
        simp [closed, waits, List.replicate_succ]
      | cons k rest =>
        rw [Call.brings, Call.next, take_cons waits]
        simp [taken]
    · have silent : call.brings q = [] := by
        cases call with
        | take => exact absurd rfl taking
        | add k => rfl
        | done k => rfl
        | close => rfl
      rw [handouts, later, silent, waiting_closed closed taking, List.count_cons_of_ne taking]
      rfl

/-- Whatever calls are made of a queue, if only keys that are held are given back, it serves them: one
holder at a time, no wish lost, first come, first served, and an end. -/
theorem serves_of_mannerly (calls : List Call) (mannerly : Mannerly calls) :
    Serves calls := by
  refine ⟨mannerly.sound.once, mannerly.sound.free, ?_, ?_, ?_, ?_, ?_⟩
  · intro early mid late k same first second
    rw [same, ← List.cons_append, ← List.append_assoc] at mannerly
    by_cases given : .done k ∈ mid
    · exact given
    · exact absurd ⟨early, mid, rfl, first, given⟩ (mannerly.of_append.sound.not_held second)
  · intro early k late same going
    have opened : (empty.after early).closed = false := opened_after rfl going
    have due := (mindful_empty.after early).due_add (k := k) opened
    have served := due.after ((closed_add k).trans opened) late
    rw [same]
    simpa [after_append, Call.next] using served
  · exact waiting_after (q := empty) calls
  · intro early late _
    apply entered_closed
    simp [after_append, Call.next, close]
  · intro early late _
    have closed : (empty.after (early ++ [.close])).closed = true := by
      simp [after_append, Call.next, close]
    have kept : (empty.after (early ++ [.close])).waiting = (empty.after early).waiting := by
      simp [after_append, Call.next, close]
    rw [handouts_closed closed, kept]

/-- Two keys come, one of them comes again while it is worked on, and the other while the end is near. -/
def longDay : List Call :=
  let git : Key := ⟨"dev", "git"⟩
  let hub : Key := ⟨"dev", "hub"⟩
  [.add git, .add hub, .take, .add git, .take, .done git, .add hub, .close, .done hub, .take, .take]

theorem serves_longDay : Mannerly longDay ∧ Serves longDay :=
  ⟨by decide +kernel, serves_of_mannerly longDay (by decide +kernel)⟩

end TokenSteward.Queue
