import TokenSteward.Proofs.Passage.Endings
import TokenSteward.Proofs.Rest.Again

/-! # A pass decides on the status of a token

What a pass is told decides on the status that it leaves behind: the first row of a table that fits
gives it. The status from before plays no part but for a link that still says the same. The pass asks
the vault only if a provider serves the token, lets a record be checked only if there is one, and asks
who holds it only if nothing is lacking.
-/

namespace TokenSteward

open TokenSteward.Cluster TokenSteward.Resource TokenSteward.Secret TokenSteward.Provider
open TokenSteward.OAuth Pass

/-- Whether a request goes to the vault or to a provider. -/
def Cluster.Request.consults : Request → Bool
  | .vault _ => true
  | .provider _ _ => true
  | _ => false

namespace TokenDesk

/-- What a pass over a token is told: the record, what that lacks, who holds it, and the time. -/
structure Account where
  record : Option Record
  validation : Validation
  holder : Except ProviderFailure Holder
  now : Int64

/-- An answer says what is told. -/
def Account.Says (told : Account) : (r : Request) → r.Answer → Prop
  | .vault (.get _), .ok record => record = told.record
  | .provider _ (.validate _ _), .ok validation => validation = told.validation
  | .provider _ (.persist _ _), answer => answer = told.holder
  | .clock, now => now = told.now
  | _, _ => True

/-- What an exchange was answered is what is told. -/
def Account.Fits (told : Account) (x : Exchange) : Prop := told.Says x.request x.answer

/-- The link for a token without a record. -/
def linkFor (d : TokenDesk) (t : AccessToken) (s : Service) (now : Int64) : String :=
  match d.links with
  | none => ""
  | some b =>
    if reusable b t (linkState t s) then t.status.link
    else String.ofList (b.link ((linkState t s).dated now))

/-- The table: the status that what is told decides on, unless the pass has to fail. -/
def verdict? (d : TokenDesk) (t : AccessToken) (told : Account) : Option TokenStatus :=
  match d.registry.forUrl? t.spec.providerUrl with
  | none => some (.failed .unknownServiceProvider
      (SettingsFault.unknownProvider t.spec.providerUrl).message)
  | some s =>
    if told.record = none then some (.awaiting (d.linkFor t s told.now))
    else if told.validation.missing ≠ [] then
      some (.invalid .unsupportedPermissions (Text.joined ", " told.validation.missing))
    else match told.holder with
      | .ok holder => some (.ready holder)
      | .error f => if f.isRefusal then some (.invalid .metadataFailure f.message) else none

/-- The requests of a pass to the vault and to providers: first for the record, then what that lacks,
then who holds it. Each is made only after the answers that it needs. -/
inductive Calls (d : TokenDesk) (w : AccessToken) : List Exchange → Prop where
  | none : Calls d w []
  | record {s : Service} {x : Exchange} (served : d.registry.forUrl? w.spec.providerUrl = some s)
      (asks : x.request = .vault (.get w)) : Calls d w [x]
  | validation {s : Service} {x y : Exchange} {r : Record}
      (served : d.registry.forUrl? w.spec.providerUrl = some s) (finds : Finds w r x)
      (asks : y.request = .provider s (.validate r w.spec.permissions)) : Calls d w [x, y]
  | holder {s : Service} {x y z : Exchange} {r : Record} {v : Validation}
      (served : d.registry.forUrl? w.spec.providerUrl = some s) (finds : Finds w r x)
      (checks : Checks w s r v y) (nothing : v.missing = [])
      (asks : z.request = .provider s (.persist w r)) : Calls d w [x, y, z]

variable {d : TokenDesk} {k : Key} {t w : AccessToken} {s : Service} {past : List Exchange} {told : Account}

/-! ## What is told -/

theorem Account.fits_iff {x : Exchange} {r : Request} {a : r.Answer} (tells : x.Tells r a) :
    told.Fits x ↔ told.Says r a := by
  obtain ⟨met, c, rfl, rfl⟩ := tells
  exact Iff.rfl

theorem Account.fits_of_tokens {x : Exchange} {q : StoreRequest TokenSpec TokenStatus}
    (asks : x.request = .tokens q) : told.Fits x := by
  obtain ⟨met, c, r⟩ := x
  subst asks
  trivial

theorem missing_of_isValid {v : Validation} (valid : v.isValid = true) : v.missing = [] :=
  List.isEmpty_iff.mp valid

theorem Offers.eq_linkFor {link : String} (offers : d.Offers w s past link)
    (fits : ∀ x ∈ past, told.Fits x) : link = d.linkFor w s told.now := by
  cases offers with
  | none unlinked => simp only [linkFor, unlinked]
  | kept links same => simp only [linkFor, links, same, if_true]
  | made links other asks =>
    have now := (Account.fits_iff asks).mp (fits _ List.mem_cons_self)
    simp only [linkFor, links, other, Bool.false_eq_true, if_false]
    rw [now]

/-- A status is the one that the table gives. -/
theorem Looked.verdict {status : TokenStatus} (looked : d.Looked w past (.ok status))
    (fits : ∀ x ∈ past, told.Fits x) : d.verdict? w told = some status := by
  have told_ {x : Exchange} {r : Request} {a : r.Answer} (tells : x.Tells r a) (here : x ∈ past) :
      told.Says r a := (Account.fits_iff tells).mp (fits x here)
  cases looked with
  | unserved nobody => simp only [verdict?, nobody]
  | awaiting served misses offers =>
    have record : none = told.record := told_ misses (by simp)
    have link := offers.eq_linkFor fun x here => fits x (List.mem_cons_of_mem _ here)
    simp only [verdict?, served, ← record, if_true, ← link]
  | unsupported served finds checks lacks =>
    have record : some _ = told.record := told_ finds (by simp)
    have validation : _ = told.validation := told_ checks (by simp)
    have missing : told.validation.missing ≠ [] := by
      rw [← validation]
      simpa [Validation.isValid] using lacks
    simp only [verdict?, served, ← record, reduceCtorEq, if_false, if_pos missing]
    rw [← validation]
    rfl
  | refused served finds checks valid fails refusal =>
    have record : some _ = told.record := told_ finds (by simp)
    have validation : _ = told.validation := told_ checks (by simp)
    have holder : .error _ = told.holder := told_ fails (by simp)
    have missing : ¬ told.validation.missing ≠ [] := by
      rw [← validation, missing_of_isValid valid]
      simp
    simp only [verdict?, served, ← record, reduceCtorEq, if_false, if_neg missing, ← holder, refusal,
      if_true]
  | ready served finds checks valid tells =>
    have record : some _ = told.record := told_ finds (by simp)
    have validation : _ = told.validation := told_ checks (by simp)
    have holder : .ok _ = told.holder := told_ tells (by simp)
    have missing : ¬ told.validation.missing ≠ [] := by
      rw [← validation, missing_of_isValid valid]
      simp
    simp only [verdict?, served, ← record, reduceCtorEq, if_false, if_neg missing, ← holder]

/-- No pass is told two things. -/
theorem Looked.exists_told {result : Except Failure TokenStatus} (looked : d.Looked w past result) :
    ∃ told : Account, ∀ x ∈ past, told.Fits x := by
  have fits {told : Account} {x : Exchange} {r : Request} {a : r.Answer} (tells : x.Tells r a)
      (same : told.Says r a) : told.Fits x := (Account.fits_iff tells).mpr same
  let unheld : Except ProviderFailure Holder := .error (.unavailable "")
  cases looked with
  | unserved nobody => exact ⟨⟨none, ⟨[]⟩, unheld, 0⟩, by simp⟩
  | outage served failed => exact ⟨⟨none, ⟨[]⟩, unheld, 0⟩, by simpa using fits failed trivial⟩
  | awaiting served misses offers =>
    cases offers with
    | none _ => exact ⟨⟨none, ⟨[]⟩, unheld, 0⟩, List.forall_mem_singleton.mpr (fits misses rfl)⟩
    | kept _ _ => exact ⟨⟨none, ⟨[]⟩, unheld, 0⟩, List.forall_mem_singleton.mpr (fits misses rfl)⟩
    | @made b y now _ _ asks =>
      exact ⟨⟨none, ⟨[]⟩, unheld, now⟩, by simpa using ⟨fits misses rfl, fits asks rfl⟩⟩
  | @unchecked _ _ _ r _ served finds failed =>
    exact ⟨⟨some r, ⟨[]⟩, unheld, 0⟩, by simpa using ⟨fits finds rfl, fits failed trivial⟩⟩
  | @unsupported _ _ _ r v served finds checks lacks =>
    exact ⟨⟨some r, v, unheld, 0⟩, by simpa using ⟨fits finds rfl, fits checks rfl⟩⟩
  | @refused _ _ _ _ r v f served finds checks valid failed refusal =>
    exact ⟨⟨some r, v, .error f, 0⟩, by simpa using ⟨fits finds rfl, fits checks rfl, fits failed rfl⟩⟩
  | @unheld _ _ _ _ r v f served finds checks valid failed passing =>
    exact ⟨⟨some r, v, .error f, 0⟩, by simpa using ⟨fits finds rfl, fits checks rfl, fits failed rfl⟩⟩
  | @ready _ _ _ _ r v holder served finds checks valid tells =>
    exact ⟨⟨some r, v, .ok holder, 0⟩, by simpa using ⟨fits finds rfl, fits checks rfl, fits tells rfl⟩⟩

/-- The status from before decides on nothing but the link. -/
theorem verdict?_of_status {status : TokenStatus} (decided : d.verdict? t told = some status)
    (earlier : TokenStatus) :
    ∃ link, d.verdict? { t with status := earlier } told = some { status with link := link } := by
  unfold verdict? at decided ⊢
  dsimp only at decided ⊢
  split at decided
  · cases decided
    exact ⟨"", rfl⟩
  · split at decided
    · next none =>
      cases decided
      exact ⟨_, if_pos none⟩
    · next found =>
      rw [if_neg found]
      refine ⟨status.link, decided⟩

/-! ## What is asked -/

/-- To work out a status takes the calls in their order. -/
theorem Looked.calls {result : Except Failure TokenStatus} (looked : d.Looked w past result) :
    d.Calls w (past.filter (·.request.consults)) := by
  cases looked with
  | unserved nobody => exact .none
  | outage served fails =>
    simpa [fails.request, Request.consults] using Calls.record served fails.request
  | awaiting served misses offers =>
    have asks : Calls d w [_] := .record served misses.request
    cases offers with
    | none _ => simpa [misses.request, Request.consults] using asks
    | kept _ _ => simpa [misses.request, Request.consults] using asks
    | made _ _ clock => simpa [misses.request, clock.request, Request.consults] using asks
  | unchecked served finds fails =>
    simpa [Exchange.Tells.request finds, fails.request, Request.consults] using
      Calls.validation served finds fails.request
  | unsupported served finds checks lacks =>
    have asks := Exchange.Tells.request checks
    simpa [Exchange.Tells.request finds, asks, Request.consults] using Calls.validation served finds asks
  | refused served finds checks valid fails refusal =>
    simpa [Exchange.Tells.request finds, Exchange.Tells.request checks, fails.request,
      Request.consults] using Calls.holder served finds checks (missing_of_isValid valid) fails.request
  | unheld served finds checks valid fails passing =>
    simpa [Exchange.Tells.request finds, Exchange.Tells.request checks, fails.request,
      Request.consults] using Calls.holder served finds checks (missing_of_isValid valid) fails.request
  | ready served finds checks valid tells =>
    simpa [Exchange.Tells.request finds, Exchange.Tells.request checks, tells.request,
      Request.consults] using Calls.holder served finds checks (missing_of_isValid valid) tells.request

theorem WorkEnded.calls {result : Except Failure Action} (worked : d.WorkEnded w past result) :
    d.Calls w (past.filter (·.request.consults)) := by
  cases worked with
  | unknown looks => exact (looked_of_yields looks).calls
  | same looks => exact (looked_of_yields looks).calls
  | unstated looks _ fails =>
    simpa [fails.request, Request.consults] using (looked_of_yields looks).calls
  | stated looks _ states =>
    simpa [states.request, Request.consults] using (looked_of_yields looks).calls

/-- A status is not worked out only if a request has failed. -/
theorem Looked.exists_fails {f : Failure} (looked : d.Looked w past (.error f)) :
    ∃ x ∈ past, x.Fails := by
  cases looked with
  | outage _ failed => exact ⟨_, by simp, failed.fails.mpr rfl⟩
  | unchecked _ _ failed => exact ⟨_, by simp, failed.fails.mpr rfl⟩
  | unheld _ _ _ _ failed _ => exact ⟨_, by simp, failed.fails.mpr rfl⟩

theorem WorkEnded.exists_fails {f : Failure} (worked : d.WorkEnded w past (.error f)) :
    ∃ x ∈ past, x.Fails := by
  cases worked with
  | unknown looks => exact (looked_of_yields looks).exists_fails
  | unstated _ _ failed => exact ⟨_, by simp, failed.fails.mpr rfl⟩

/-! ## What is left behind -/

theorem workedOn_eq (c : Cluster) (t : AccessToken) : ∃ version, workedOn c t =
    { t with metadata := { t.metadata with
        guards := if isUnguarded t then t.metadata.guards ++ [bindingsGuard, secretGuard]
          else t.metadata.guards
        version := version } } := by
  unfold workedOn
  by_cases bare : isUnguarded t = true
  · obtain ⟨guards, same⟩ := exists_guards_guarded t
    have both := guards_guarded_of_isUnguarded bare
    rw [same] at both
    obtain rfl : guards = _ := both
    rw [if_pos bare, if_pos bare, same]
    exact ⟨_, rfl⟩
  · rw [if_neg bare, if_neg bare]
    exact ⟨_, rfl⟩

theorem verdict?_workedOn (c : Cluster) (t : AccessToken) :
    d.verdict? (workedOn c t) told = d.verdict? t told := by
  obtain ⟨version, same⟩ := workedOn_eq c t
  rw [same]
  rfl

section apart

variable {g : Ground} {comes : Nat → Between} {late : List Exchange}

theorem Begun.tokens {begun : List Exchange} (begins : Begun k t w begun) :
    ∀ x ∈ begun, ∃ q, x.request = .tokens q := by
  cases begins with
  | read reads _ _ => simpa using ⟨_, Exchange.Tells.request reads⟩
  | put reads _ _ puts => simpa using ⟨⟨_, Exchange.Tells.request reads⟩, ⟨_, puts.request⟩⟩

/-- The status is worked out from the copy of the token that is stored then. -/
theorem Begun.stored {u : AccessToken} {begun : List Exchange} (begins : Begun k u w begun)
    (apart : LeaveTokens comes) (parts : ((d.pass k).play comes 0 g).1 = begun ++ late)
    (stored : g.cluster.tokens.get? k = some t) :
    w = workedOn g.cluster t ∧ (reached g begun).tokens.get? k = some w := by
  cases begins with
  | read reads alive guarded =>
    next x =>
    obtain ⟨rfl, met⟩ := reads.first apart parts stored
    refine ⟨by simp [workedOn, guarded], ?_⟩
    change x.left.tokens.get? k = _
    rw [reads.stored.2, met, stored]
  | put reads alive bare puts =>
    next x y =>
    obtain ⟨rfl, met⟩ := reads.first apart parts stored
    have here : y.cluster.tokens = g.cluster.tokens := by
      have next : ((d.pass k).play comes 0 g).1 = [x] ++ y :: late := parts
      exact (tokens_met apart next).trans (reads.stored.2.trans met)
    have key : u.key = k := g.sound.tokens.filed stored
    have copy : y.cluster.tokens.Snapshot u := here ▸ g.sound.tokens.snapshot stored
    obtain ⟨_, same, written⟩ := written_of_put copy alive puts
    refine ⟨by rw [same, here, workedOn, if_pos bare], ?_⟩
    change y.left.tokens.get? k = _
    rw [written]
    refine Store.get?_write_self _ ?_
    rw [same]
    exact (key_guarded u).trans key

/-- To work out a status leaves the token alone. -/
theorem stored_of_looks {begun looked : List Exchange} {status : TokenStatus}
    (looks : (d.desiredStatus w).Yields looked (.ok status)) (apart : LeaveTokens comes)
    (parts : ((d.pass k).play comes 0 g).1 = begun ++ looked ++ late)
    (found : (reached g begun).tokens.get? k = some w) :
    (reached g (begun ++ looked)).tokens.get? k = some w := by
  have asked := (d.asks_desiredStatus w).yields looks
  have kept : (reached g (begun ++ looked)).tokens = (reached g begun).tokens :=
    kept_of_apart (fun _ _ => rfl) apart.tokens_answer parts fun x here =>
      x.cluster.tokens_answer x.chance x.request (asked x here).ne_tokens
  rw [kept]
  exact found

/-- What work on a token leaves behind that succeeds: the token with the status that it has come to. -/
theorem left_of_workEnded {begun rest : List Exchange} {a : Action} (works : d.WorkEnded w rest (.ok a))
    (apart : LeaveTokens comes) (parts : ((d.pass k).play comes 0 g).1 = begun ++ rest)
    (found : (reached g begun).tokens.get? k = some w) :
    a = .await ∧ ∃ looked states status version, rest = looked ++ states ∧
      d.Looked w looked (.ok status) ∧ (∀ x ∈ states, ∃ q, x.request = .tokens q) ∧
      (reached g (begun ++ rest)).tokens.get? k = some ({ w with status := status }.withVersion version) := by
  cases works with
  | same looks =>
    have split : ((d.pass k).play comes 0 g).1 = begun ++ rest ++ [] := by rw [parts, List.append_nil]
    have here := stored_of_looks looks apart split found
    exact ⟨rfl, rest, [], w.status, w.metadata.version, by simp, looked_of_yields looks, by simp, here⟩
  | stated looks differs states =>
    next looked status x a =>
    have split : ((d.pass k).play comes 0 g).1 = begun ++ looked ++ x :: [] := by
      rw [parts, List.append_assoc]
    have here := stored_of_looks looks apart split found
    rw [← tokens_met apart split] at here
    have key : w.key = k := x.sound.tokens.filed here
    obtain ⟨_, _, written⟩ := (x.sound.tokens.snapshot here).updateStatus_cases differs states.tokens
    refine ⟨rfl, looked, [x], status, x.cluster.tokens.version + 1, rfl, looked_of_yields looks, ?_, ?_⟩
    · simpa using ⟨_, states.request⟩
    · have last : reached g (begun ++ (looked ++ [x])) = x.left := by
        simp [reached, ← List.append_assoc]
      rw [last, written]
      exact Store.get?_write_self _ key

/-- What a pass leaves behind that has succeeded over a token that is not let go: nothing is changed but
the guards if it had neither of the two, the version and the status; and the status is the one that the
table gives for what the pass was told, whatever the status was before, but for the link. -/
structure Decided (d : TokenDesk) (t left : AccessToken) (past : List Exchange) : Prop where
  kept : ∃ version, left = { t with
    metadata := { t.metadata with
      guards := if isUnguarded t then t.metadata.guards ++ [bindingsGuard, secretGuard]
        else t.metadata.guards
      version := version }
    status := left.status }
  told : ∃ told : Account, ∀ x ∈ past, told.Fits x
  verdict : ∀ told : Account, (∀ x ∈ past, told.Fits x) → d.verdict? t told = some left.status
  whatever : ∀ told : Account, (∀ x ∈ past, told.Fits x) → ∀ earlier, ∃ link,
    d.verdict? { t with status := earlier } told = some { left.status with link := link }

/-- A pass over a token that is not to be deleted consults others in their order, whatever they answer,
and fails only if a request of it has failed. If it succeeds, it leaves behind the token with the status
that the table gives. -/
theorem decided_of_success (stored : g.cluster.tokens.get? k = some t) (alive : t.isDeleting = false)
    (apart : LeaveTokens comes) :
    d.Calls (workedOn g.cluster t)
      (((d.pass k).play comes 0 g).1.filter (·.request.consults)) ∧
    (∀ f, ((d.pass k).play comes 0 g).2 = .error f → ∃ x ∈ ((d.pass k).play comes 0 g).1, x.Fails) ∧
    ∀ a, ((d.pass k).play comes 0 g).2 = .ok a → a = .await ∧ ∃ left,
      (reached g ((d.pass k).play comes 0 g).1).tokens.get? k = some left ∧
        d.Decided t left ((d.pass k).play comes 0 g).1 := by
  have ended := d.ended_of_play k g comes
  generalize parts : ((d.pass k).play comes 0 g).1 = past at ended
  generalize ((d.pass k).play comes 0 g).2 = result at ended
  cases ended with
  | unread fails =>
    refine ⟨?_, fun _ _ => ⟨_, List.mem_cons_self, fails.fails.mpr rfl⟩, fun a none => by contradiction⟩
    simpa [fails.request, Request.consults] using Calls.none
  | absent misses =>
    exact absurd stored (not_stored_of_absent apart parts misses)
  | letGo reads deleting goes =>
    obtain ⟨rfl, _⟩ := reads.first apart parts stored
    rw [alive] at deleting
    contradiction
  | unput reads _ _ fails =>
    refine ⟨?_, fun _ _ => ⟨_, by simp, fails.fails.mpr rfl⟩, fun a none => by contradiction⟩
    simpa [Exchange.Tells.request reads, fails.request, Request.consults] using Calls.none
  | worked begins works =>
    next w begun rest =>
    obtain ⟨rfl, found⟩ := begins.stored apart parts stored
    have quiet : begun.filter (·.request.consults) = [] := by
      refine List.filter_eq_nil_iff.mpr fun x here => ?_
      obtain ⟨q, asks⟩ := begins.tokens x here
      simp [asks, Request.consults]
    refine ⟨by simpa [quiet] using works.calls, ?_, ?_⟩
    · rintro f rfl
      obtain ⟨x, here, failed⟩ := works.exists_fails
      exact ⟨x, List.mem_append_right _ here, failed⟩
    rintro a rfl
    obtain ⟨rfl, looked, states, status, version, rfl, looks, others, left⟩ :=
      left_of_workEnded works apart parts found
    have verdict (told : Account) (fits : ∀ x ∈ begun ++ (looked ++ states), told.Fits x) :
        d.verdict? t told = some status := by
      rw [← verdict?_workedOn g.cluster]
      exact looks.verdict fun x here => fits x (by simp [here])
    refine ⟨rfl, _, left, ?_, ?_, verdict, fun told fits => verdict?_of_status (verdict told fits)⟩
    · obtain ⟨version', same⟩ := workedOn_eq g.cluster t
      rw [same]
      exact ⟨version, rfl⟩
    · obtain ⟨told, fits⟩ := looks.exists_told
      refine ⟨told, List.forall_mem_append.mpr ⟨fun x here => ?_, List.forall_mem_append.mpr
        ⟨fits, fun x here => ?_⟩⟩⟩
      · exact Account.fits_of_tokens (begins.tokens x here).choose_spec
      · exact Account.fits_of_tokens (others x here).choose_spec

end apart

/-- A token with somebody else's guard, whose status is out of date. -/
def outdatedToken : AccessToken :=
  { AccessToken.fresh { Metadata.named "dev" "git" with guards := ["audit.example/kept"] }
      "https://git.example" .none with status := .awaiting "https://oauth.example/old" }

/-- A cluster with that token and its record. -/
def outdatedGround : Ground :=
  ((Ground.bare (.serial 5)).answer .quiet (.tokens (.create outdatedToken))).answer .quiet
    (.vault (.store { outdatedToken with metadata.uid := "<uid:t1>" } .blank))

/-- The provider misses two scopes in the record, and nobody else asks for anything. -/
def twoMissing (_ : Nat) : Between :=
  ⟨[], 5, .calm fun _ r => match r with
    | .validate _ _ => .ok ⟨["repo", "user"]⟩
    | .lookup _ => .ok none
    | .persist _ _ => .error (.unavailable "")⟩

/-- The pass over that token there. -/
def lackingPlay : List Exchange × Except Failure Action :=
  (linkingDesk.pass outdatedToken.key).play twoMissing 0 outdatedGround

/-- The status of that token is replaced by what is missing, and the guards join the other one. -/
theorem decided_of_success_lacking : ∃ t left,
    outdatedGround.cluster.tokens.get? outdatedToken.key = some t ∧
    (reached outdatedGround lackingPlay.1).tokens.get? outdatedToken.key = some left ∧
    left.metadata.guards = ["audit.example/kept", bindingsGuard, secretGuard] ∧
    left.status = .invalid .unsupportedPermissions "repo, user" ∧
    linkingDesk.Decided t left lackingPlay.1 := by
  have present : (outdatedGround.cluster.tokens.get? outdatedToken.key).isSome = true := by decide +kernel
  have alive : ∀ t ∈ outdatedGround.cluster.tokens.get? outdatedToken.key, t.isDeleting = false := by
    decide +kernel
  have ends : lackingPlay.2 = .ok .await := by decide +kernel
  have after : ∀ left ∈ (reached outdatedGround lackingPlay.1).tokens.get? outdatedToken.key,
      left.metadata.guards = ["audit.example/kept", bindingsGuard, secretGuard] ∧
        left.status = .invalid .unsupportedPermissions "repo, user" := by
    decide +kernel
  obtain ⟨t, stored⟩ := Option.isSome_iff_exists.mp present
  have apart : LeaveTokens twoMissing := by simp [LeaveTokens, twoMissing]
  obtain ⟨_, _, success⟩ := decided_of_success (d := linkingDesk) stored (alive t stored) apart
  obtain ⟨_, left, found, decided⟩ := success _ ends
  obtain ⟨guards, status⟩ := after left found
  exact ⟨t, left, stored, found, guards, status, decided⟩

end TokenDesk

end TokenSteward
