import TokenSteward.Proofs.OAuth.Genuine
import TokenSteward.Proofs.Pass.Guards
import TokenSteward.Proofs.Status.Sources
import TokenSteward.Proofs.Traffic.Basic

/-! # Links are not ahead of their time

The link of a token carries the time that the clock told the pass that made it, and later passes carry
it over. If the clock never goes back and nobody but the passes writes statuses, then whoever looks at
such a link later does not find it issued in the future.
-/

namespace TokenSteward

open TokenSteward.Cluster TokenSteward.Resource TokenSteward.Secret TokenSteward.Provider
open TokenSteward.OAuth Pass

namespace OAuth.SigningKey

variable {k k' : SigningKey} {now : Int64} {s : LinkState}

/-- Contents that were issued before are acceptable to a holder of the key. -/
theorem parseState_of_past (past : s.issuedAt ≤ now) :
    k.parseState (String.ofList (k.sign s.toValue)) now = .ok s := by
  have timely : ¬ now < s.issuedAt := Int64.not_lt.mpr past
  simp only [parseState, decodeState, String.toList_ofList, k.decode_sign s.reads_toValue,
    LinkState.validateAt, timely, if_false, Bind.bind, Except.bind]

/-- A text that was signed with one key is refused with another one, unless that signs it alike. -/
theorem refuses_or_sign_eq {α : Type} (k k' : SigningKey) (v : Json.Value) (r : Json.Reader α) :
    k'.Refuses r (k.sign v) ∨ k.sign v = k'.sign v := by
  by_cases refused : k'.Refuses r (k.sign v)
  · exact .inl refused
  · refine .inr ?_
    obtain ⟨_, signed⟩ := (not_refuses_iff (Text.Base64.point_not_mem_encode _)).mp refused
    simp only [sign, signed]

/-- To no key's holder are they from the future. -/
theorem parseState_ne_future (past : s.issuedAt ≤ now) (issued at' : Int64) :
    k'.parseState (String.ofList (k.sign s.toValue)) now ≠ .error (.future issued at') := by
  rcases refuses_or_sign_eq k k' s.toValue LinkState.reader with (⟨message, failed⟩ | failed) | same
  · simp [parseState, decodeState, failed, Bind.bind, Except.bind]
  · simp [parseState, decodeState, failed, Bind.bind, Except.bind]
  · rw [same, parseState_of_past past]
    simp

end OAuth.SigningKey

/-- A link, if there is one, was built with contents that were not issued after an instant. -/
inductive Dated (now : Int64) : String → Prop where
  | none : Dated now ""
  | built (b : LinkBuilder) {s : LinkState} (past : s.issuedAt ≤ now) :
      Dated now (String.ofList (b.link s))

theorem Dated.mono {now later : Int64} {link : String} (dated : Dated now link) (passes : now ≤ later) :
    Dated later link := by
  cases dated with
  | none => exact .none
  | built b past => exact .built b (Int64.le_trans past passes)

/-- The time that an answer tells. -/
def Cluster.Request.time? : (r : Request) → r.Answer → Option Int64
  | .clock, now => some now
  | _, _ => none

/-- What passes know is a time that has come. They bring no links that are ahead of it, and are shown
none. -/
def punctual : Discipline Int64 where
  allows now r := ∀ status ∈ r.brings?, Dated now status.link
  leads now r answer later := now ≤ later ∧ (∀ t ∈ r.shown answer, Dated later t.status.link) ∧
    ∀ told ∈ r.time? answer, told ≤ later

/-- What is allowed at some time is allowed later. -/
theorem Pass.Obeys.later {α : Type} {p : Pass α} {now later : Int64}
    (obeys : p.Obeys punctual (fun _ _ => True) now) (passes : now ≤ later) :
    p.Obeys punctual (fun _ _ => True) later := by
  cases p with
  | done a => trivial
  | fail f => trivial
  | ask r next =>
    obtain ⟨allowed, goesOn⟩ := obeys
    refine ⟨fun status brought => (allowed status brought).mono passes, ?_⟩
    rintro answer last ⟨on, shown, told⟩
    exact goesOn answer last ⟨Int64.le_trans passes on, shown, told⟩

/-! ## What passes bring -/

namespace TokenDesk

variable (d : TokenDesk)

/-- The link of the status that a pass comes to is not ahead of the time if the one from before is not. -/
theorem dated_desiredStatus {t : AccessToken} {now : Int64} (before : Dated now t.status.link) :
    (d.desiredStatus t).Obeys punctual
      (fun now result => ∀ s, result = .ok s → Dated now s.link) now := by
  refine obeys_status (fun now s => Dated now s.link) (fun now => Dated now t.status.link) d t ?_ ?_ ?_
    (fun _ kept => kept) ?_ before
  · intro _ r looks
    cases looks <;> exact fun _ none => by contradiction
  · intro _ r answer later dated leads
    exact dated.mono leads.1
  · intro _ s linkless
    cases linkless <;> exact .none
  · intro b _ told later s _ leads
    exact .built b (leads.2.2 told rfl)

theorem dated_work {t : AccessToken} {now : Int64} (before : Dated now t.status.link) :
    (d.work t).Obeys punctual (fun _ _ => True) now := by
  apply obeys_bind.mpr
  apply (d.dated_desiredStatus before).mono
  intro now' result dated
  cases result with
  | error f => trivial
  | ok status =>
    change Obeys punctual _ _ (if _ then _ else _)
    split
    · refine obeys_bind.mpr (obeys_tokens.mpr ⟨?_, fun answer _ _ => ?_⟩)
      · rintro _ ⟨⟩
        exact dated status rfl
      · cases answer <;> trivial
    · trivial

theorem dated_pass (k : Key) (now : Int64) : (d.pass k).Obeys punctual (fun _ _ => True) now := by
  rw [pass_eq]
  refine obeys_bind.mpr (obeys_tokens.mpr ⟨fun _ none => by contradiction, fun found now' leads => ?_⟩)
  obtain ⟨_, shown, _⟩ := leads
  rcases found with f | _ | t
  · trivial
  · trivial
  · have before : Dated now' t.status.link := shown t (Option.mem_toList.mpr rfl)
    change Obeys punctual _ _ (if _ then _ else _)
    split
    · apply (d.asks_finalize t).obeys
      intro _ r kind
      cases kind <;> exact fun _ none => by contradiction
    · split
      · refine obeys_bind.mpr (obeys_tokens.mpr ⟨fun _ none => by contradiction, fun put _ leads => ?_⟩)
        cases put with
        | error f => trivial
        | ok w => exact d.dated_work (leads.2.1 w (List.mem_singleton_self w))
      · exact d.dated_work before

end TokenDesk

theorem Errand.dated (e : Errand) (now : Int64) : e.pass.Obeys punctual (fun _ _ => True) now := by
  cases e with
  | token d k => exact d.dated_pass k now
  | binding d k =>
    apply (d.asks_pass k).obeys
    intro now r kind
    cases kind with
    | create b s =>
      rintro _ ⟨⟩
      exact .none
    | _ => exact fun _ none => by contradiction
  | update d k =>
    apply (d.asks_pass k).obeys
    intro now r kind
    cases kind <;> exact fun _ none => by contradiction

/-! ## Runs in which the clock is not set back -/

theorem Cluster.clock_answer (c : Cluster) (x : Chance) (r : Request) :
    (c.answer x r).2.clock = c.clock := by
  cases r with
  | tokens q => simp only [answer]; split <;> rfl
  | bindings q => simp only [answer]; split <;> rfl
  | updates q => simp only [answer]; split <;> rfl
  | vault q => simp only [answer]; split <;> rfl
  | _ => rfl

namespace Traffic

/-- Whoever makes a move from outside leaves the statuses of tokens to the passes, and the clock is not
set back. -/
def Minds (t : Traffic) : Move → Prop
  | .outside (.tokens (.create o)) => o.status = .initial
  | .outside (.tokens (.updateStatus _)) => False
  | .time clock => t.cluster.clock ≤ clock
  | _ => True

instance decidableMinds (t : Traffic) : (m : Move) → Decidable (t.Minds m)
  | .outside (.tokens (.create o)) => inferInstanceAs (Decidable (o.status = .initial))
  | .outside (.tokens (.updateStatus _)) => isFalse id
  | .time clock => Int64.decLe t.cluster.clock clock
  | .outside (.tokens (.get _)) | .outside (.tokens (.list _ _)) | .outside (.tokens (.update _))
  | .outside (.tokens (.delete _)) | .outside (.bindings _) | .outside (.updates _)
  | .outside (.vault _) | .outside (.provider _ _) | .outside (.enqueue _ _) | .outside .clock
  | .outside (.pause _) | .begins _ | .answered _ _ => isTrue trivial

/-- What every move keeps: no stored link is ahead of the time, and the passes under way bring none. -/
structure Punctual (t : Traffic) : Prop where
  sound : t.cluster.Sound
  dated : t.cluster.AllStatuses fun s => Dated t.cluster.clock s.link
  obeys : ∀ p ∈ t.passes, p.Obeys punctual (fun _ _ => True) t.cluster.clock

variable {t : Traffic} {m : Move} {outset : Cluster.Outset} {early late : List Move}

theorem dated_of_minds {r : Request} (minds : t.Minds (.outside r)) (now : Int64) :
    ∀ status ∈ r.brings?, Dated now status.link := by
  intro status brought
  cases r with
  | tokens q =>
    cases q with
    | create o =>
      obtain rfl : o.status = status := Option.some.inj brought
      have initial : o.status = .initial := minds
      rw [initial]
      exact .none
    | updateStatus o => exact absurd minds id
    | _ => contradiction
  | _ => contradiction

/-- A request that brings no link ahead of the time keeps the stored links from that. -/
theorem Punctual.answer (punctual : t.Punctual) (x : Chance) {r : Request}
    (brings : ∀ status ∈ r.brings?, Dated t.cluster.clock status.link) :
    (t.cluster.answer x r).2.Sound ∧
      (t.cluster.answer x r).2.AllStatuses fun s => Dated (t.cluster.answer x r).2.clock s.link := by
  refine ⟨punctual.sound.answer x r, ?_⟩
  rw [Cluster.clock_answer]
  exact punctual.dated.answer punctual.sound x brings

theorem clock_le_after (minds : t.Minds m) : t.cluster.clock ≤ (t.after m).cluster.clock := by
  cases m with
  | begins e => exact Int64.le_refl _
  | answered i x =>
    simp only [after]
    split
    · rw [Cluster.clock_answer]
      exact Int64.le_refl _
    · exact Int64.le_refl _
  | outside r =>
    simp only [after, Cluster.clock_answer]
    exact Int64.le_refl _
  | time clock => exact minds

theorem Punctual.after (punctual : t.Punctual) (minds : t.Minds m) : (t.after m).Punctual := by
  have on := clock_le_after minds
  cases m with
  | begins e =>
    refine ⟨punctual.sound, punctual.dated, fun p here => ?_⟩
    rcases List.mem_append.mp here with old | new
    · exact punctual.obeys p old
    · exact List.mem_singleton.mp new ▸ e.dated _
  | answered i x =>
    simp only [Traffic.after] at on ⊢
    split
    · next r next asks =>
      obtain ⟨allowed, goesOn⟩ := punctual.obeys _ (List.mem_of_getElem? asks)
      obtain ⟨sound, dated⟩ := punctual.answer x allowed
      refine ⟨sound, dated, fun p here => ?_⟩
      rw [Cluster.clock_answer]
      rcases List.mem_or_eq_of_mem_set here with old | rfl
      · exact punctual.obeys p old
      · refine goesOn _ _ ⟨Int64.le_refl _, fun t among => ?_, fun told said => ?_⟩
        · exact punctual.dated.shown x allowed among
        · cases r <;> cases said
          exact Int64.le_refl _
    · exact punctual
  | outside r =>
    obtain ⟨sound, dated⟩ := punctual.answer .quiet (dated_of_minds minds _)
    refine ⟨sound, dated, fun p here => ?_⟩
    simp only [Traffic.after, Cluster.clock_answer]
    exact punctual.obeys p here
  | time clock =>
    refine ⟨⟨punctual.sound.tokens, punctual.sound.bindings, punctual.sound.updates⟩, ?_, ?_⟩
    · exact fun k t stored => (punctual.dated k t stored).mono on
    · exact fun p here => (punctual.obeys p here).later on

theorem punctual_run {moves : List Move} (minds : Always outset Minds moves) :
    (run outset moves).Punctual := by
  induction moves using List.reverseRecOn with
  | nil =>
    refine ⟨Cluster.sound_empty outset, fun k t stored => ?_, fun p none => ?_⟩
    · cases stored
    · cases none
  | append_singleton moves m ih =>
    obtain ⟨before, last⟩ := always_snoc.mp minds
    rw [run_snoc]
    exact (ih before).after last

/-- No link that was stored at some point of a run is ahead of the time then or at any later point. -/
theorem dated_of_stored (minds : Always outset Minds (early ++ late)) {k : Key} {t : AccessToken}
    (stored : (run outset early).cluster.tokens.get? k = some t) :
    Dated (run outset (early ++ late)).cluster.clock t.status.link := by
  induction late using List.reverseRecOn with
  | nil =>
    rw [List.append_nil] at minds ⊢
    exact (punctual_run minds).dated k t stored
  | append_singleton late m ih =>
    rw [← List.append_assoc] at minds ⊢
    obtain ⟨before, last⟩ := always_snoc.mp minds
    rw [run_snoc]
    exact (ih before).mono (clock_le_after last)

end Traffic

end TokenSteward
