import TokenSteward.Proofs.OAuth.Link
import TokenSteward.Proofs.Passage.Decided
import TokenSteward.Proofs.Provider.Scopes
import TokenSteward.Proofs.Status.Dated

/-! # The link that a pass publishes

A token without a record has a link to where a credential is obtained for it. Whatever link it had
before, after a pass the link says what is asked for the token as it is stored. The link from before is
kept if it says that already, and a new one carries the time that the clock has told the pass. In what
order permissions and scopes are asked for, and how often, makes no difference.
-/

namespace TokenSteward

open TokenSteward.Cluster TokenSteward.Resource TokenSteward.Secret TokenSteward.Provider
open TokenSteward.OAuth Pass

namespace TokenDesk

/-- The contents of a link say what is asked for a token. -/
structure Says (s : Service) (t : AccessToken) (contents : LinkState) : Prop where
  name : contents.tokenName = t.metadata.name
  space : contents.tokenSpace = t.metadata.space
  ascending : contents.scopes.Pairwise (· < ·)
  scopes : ∀ scope, scope ∈ contents.scopes ↔ Wants s.translate t.spec.permissions scope
  type : contents.providerType = s.type
  url : contents.providerUrl = t.spec.providerUrl

/-- A token awaits data, and the link that it has says what is asked for it. -/
def Current (b : LinkBuilder) (s : Service) (t : AccessToken) : Prop :=
  t.status.phase = .awaitingData ∧
    ∃ contents, b.published? t.status.link.toList = some contents ∧ Says s t contents

/-- What a pass comes to that leaves a token without data. -/
structure Published (b : LinkBuilder) (s : Service) (t left : AccessToken) (past : List Exchange) :
    Prop where
  /-- The link says what is asked for the token as it is stored. -/
  current : Current b s left
  /-- A current link is kept, and the clock is not asked. -/
  kept : Current b s t → left.status.link = t.status.link ∧ ∀ x ∈ past, x.request ≠ .clock
  /-- Any other link is replaced by a new one that carries the time of the pass. -/
  made : ¬ Current b s t → ∃ x ∈ past, ∃ now, x.Tells .clock now ∧
    left.status.link = String.ofList (b.link ((linkState left s).dated now))
  /-- If no link was left over from another phase, then a new link is not the one from before. -/
  same_iff : t.status.phase = .awaitingData ∨ t.status.link = "" →
    (left.status.link = t.status.link ↔ Current b s t)
  /-- A link that was current before the permissions were reworded is kept. -/
  reworded : ∀ wanted, Rewords wanted t.spec.permissions →
    Current b s { t with spec := { t.spec with permissions := wanted } } →
    left.status.link = t.status.link

variable {d : TokenDesk} {b : LinkBuilder} {s : Service} {k : Key} {t left w : AccessToken}
  {contents : LinkState} {past : List Exchange}

/-! ## What a link says -/

/-- The contents of a link but for the issue time are known from what is asked for the token. -/
theorem says_iff : Says s t contents ↔ contents.undated = linkState t s := by
  constructor
  · rintro ⟨name, space, ascending, scopes, type, url⟩
    have listed : contents.scopes = ScopeSet.toList (s.requiredScopes t.spec.permissions) :=
      ascending.eq_of_mem_iff (ScopeSet.pairwise_toList _) fun scope =>
        (scopes scope).trans mem_requiredScopes.symm
    simp only [LinkState.undated, linkState, name, space, listed, type, url]
  · intro same
    have name := congrArg LinkState.tokenName same
    have space := congrArg LinkState.tokenSpace same
    have listed : contents.scopes = ScopeSet.toList (s.requiredScopes t.spec.permissions) :=
      congrArg LinkState.scopes same
    have type := congrArg LinkState.providerType same
    have url := congrArg LinkState.providerUrl same
    refine ⟨name, space, ?_, fun scope => ?_, type, url⟩
    · rw [listed]
      exact ScopeSet.pairwise_toList _
    · rw [listed]
      exact mem_requiredScopes

theorem says_dated (now : Int64) : Says s t ((linkState t s).dated now) := says_iff.mpr rfl

/-- A link is reused if it is current. -/
theorem reusable_iff : reusable b t (linkState t s) = true ↔ Current b s t := by
  simp only [reusable, Current, says_iff, Bool.and_eq_true, beq_iff_eq]
  refine and_congr_right fun _ => ?_
  cases b.published? t.status.link.toList with
  | none => simp
  | some contents => simp

/-- Whether a link is current is known from what is asked for the token and from its status. -/
theorem current_congr (same : linkState w s = linkState t s) (status : w.status = t.status) :
    Current b s w ↔ Current b s t := by
  simp only [Current, says_iff, same, status]

/-- What is asked for a token does not depend on how the permissions are worded. -/
theorem linkState_of_rewords {wanted : Permissions} (rewords : Rewords wanted t.spec.permissions) :
    linkState { t with spec := { t.spec with permissions := wanted } } s = linkState t s := by
  have listed : ScopeSet.toList (s.requiredScopes wanted) =
      ScopeSet.toList (s.requiredScopes t.spec.permissions) :=
    congrArg ScopeSet.toList (rewords.requiredScopes_eq s.translate)
  simp only [linkState, listed]

/-- No link is empty. -/
theorem published?_nil (b : LinkBuilder) : b.published? [] = none := by
  cases base : b.base with
  | nil => simp [LinkBuilder.published?, base, Text.after?]
  | cons c rest => simp [LinkBuilder.published?, base, Text.after?]

/-! ## What a pass leaves behind -/

section apart

variable {g : Ground} {comes : Nat → Between} {a : Action}

/-- A pass that has succeeded over a token that is not let go has come to a status, and has left the
token with it. Apart from the requests to the tokens' store it has made only those that led to the
status. -/
theorem looked_of_success (stored : g.cluster.tokens.get? k = some t) (alive : t.isDeleting = false)
    (apart : LeaveTokens comes) (ends : ((d.pass k).play comes 0 g).2 = .ok a) :
    ∃ begun looked states status version,
      ((d.pass k).play comes 0 g).1 = begun ++ looked ++ states ∧
      (∀ x ∈ begun ++ states, ∃ q, x.request = .tokens q) ∧
      d.Looked (workedOn g.cluster t) looked (.ok status) ∧
      (reached g ((d.pass k).play comes 0 g).1).tokens.get? k =
        some ({ workedOn g.cluster t with status := status }.withVersion version) := by
  have ended := d.ended_of_play k g comes
  rw [ends] at ended
  generalize parts : ((d.pass k).play comes 0 g).1 = past at ended ⊢
  generalize same : (.ok a : Except Failure Action) = result at ended
  cases ended with
  | unread => contradiction
  | absent misses => exact absurd stored (not_stored_of_absent apart parts misses)
  | letGo reads deleting _ =>
    obtain ⟨rfl, _⟩ := reads.first apart parts stored
    rw [alive] at deleting
    contradiction
  | unput => contradiction
  | worked begins works =>
    next w begun rest =>
    obtain ⟨rfl, found⟩ := begins.stored apart parts stored
    subst same
    obtain ⟨_, looked, states, status, version, rfl, looks, others, left⟩ :=
      left_of_workEnded works apart parts found
    exact ⟨begun, looked, states, status, version, (List.append_assoc ..).symm,
      List.forall_mem_append.mpr ⟨begins.tokens, others⟩, looks, left⟩

/-- A current link is offered again, and a new one instead of any other. -/
theorem offers_cases {offered : List Exchange} {link : String} (links : d.links = some b)
    (offers : d.Offers w s offered link) :
    (Current b s w ∧ offered = [] ∧ link = w.status.link) ∨
      (¬ Current b s w ∧ ∃ y now, offered = [y] ∧ y.Tells .clock now ∧
        link = String.ofList (b.link ((linkState w s).dated now))) := by
  cases offers with
  | none unlinked =>
    rw [unlinked] at links
    contradiction
  | kept links' same =>
    obtain rfl := Option.some.inj (links.symm.trans links')
    exact .inl ⟨reusable_iff.mp same, rfl, rfl⟩
  | made links' other asks =>
    obtain rfl := Option.some.inj (links.symm.trans links')
    refine .inr ⟨fun current => ?_, _, _, rfl, asks, rfl⟩
    rw [reusable_iff.mpr current] at other
    contradiction

/-- A pass has published a link that was offered for a token. The token asks for the same before and
after. -/
theorem published_of_offers {begun offered states : List Exchange} {link : String} {x : Exchange}
    (links : d.links = some b) (misses : x.Tells (.vault (.get w)) (.ok none))
    (offers : d.Offers w s offered link) (before : linkState w s = linkState t s)
    (status : w.status = t.status) (awaits : left.status = .awaiting link)
    (after : linkState left s = linkState t s)
    (others : ∀ x ∈ begun ++ states, ∃ q, x.request = .tokens q) :
    Published b s t left (begun ++ x :: offered ++ states) := by
  have phase : left.status.phase = .awaitingData := by rw [awaits]; rfl
  have newest : left.status.link = link := by rw [awaits]; rfl
  have same : Current b s w ↔ Current b s t := current_congr before status
  have rewording {wanted : Permissions} (rewords : Rewords wanted t.spec.permissions) :
      Current b s { t with spec := { t.spec with permissions := wanted } } ↔ Current b s t :=
    current_congr (linkState_of_rewords rewords) rfl
  rcases offers_cases links offers with ⟨current, rfl, rfl⟩ | ⟨other, y, now, rfl, asks, rfl⟩
  · have kept : left.status.link = t.status.link := by rw [newest, status]
    have quiet : ∀ z ∈ begun ++ [x] ++ states, z.request ≠ .clock := by
      intro z here clock
      have among : z ∈ begun ++ states ∨ z = x := by grind
      rcases among with there | rfl
      · obtain ⟨q, asks⟩ := others z there
        cases clock.symm.trans asks
      · cases clock.symm.trans misses.request
    obtain ⟨_, contents, read, wanted⟩ := same.mp current
    exact {
      current := ⟨phase, contents, by rw [kept]; exact read,
        says_iff.mpr ((says_iff.mp wanted).trans after.symm)⟩
      kept := fun _ => ⟨kept, quiet⟩
      made := fun other => absurd (same.mp current) other
      same_iff := fun _ => iff_of_true kept (same.mp current)
      reworded := fun _ _ _ => kept }
  · have made : left.status.link = String.ofList (b.link ((linkState left s).dated now)) := by
      rw [newest, before, after]
    have current : Current b s left := by
      refine ⟨phase, (linkState left s).dated now, ?_, says_dated now⟩
      rw [made, String.toList_ofList]
      exact b.published?_link _
    have stale : ¬ Current b s t := fun current => other (same.mpr current)
    exact {
      current := current
      kept := fun current => absurd current stale
      made := fun _ => ⟨y, by simp, now, asks, made⟩
      same_iff := by
        intro tidy
        refine iff_of_false (fun equal => ?_) stale
        obtain ⟨_, contents, read, wanted⟩ := current
        rw [equal] at read
        rcases tidy with awaited | empty
        · exact stale ⟨awaited, contents, read, says_iff.mpr ((says_iff.mp wanted).trans after)⟩
        · rw [empty] at read
          rw [show ("" : String).toList = [] from rfl, published?_nil] at read
          contradiction
      reworded := fun wanted rewords before => absurd ((rewording rewords).mp before) stale }

/-- A pass that succeeds leaves the token stored, and its link published if it awaits data. -/
theorem published_of_success (links : d.links = some b) (stored : g.cluster.tokens.get? k = some t)
    (alive : t.isDeleting = false) (apart : LeaveTokens comes)
    (ends : ((d.pass k).play comes 0 g).2 = .ok a) :
    ∃ left, (reached g ((d.pass k).play comes 0 g).1).tokens.get? k = some left ∧
      (left.status.phase = .awaitingData → ∃ s, d.registry.forUrl? t.spec.providerUrl = some s ∧
        Published b s t left ((d.pass k).play comes 0 g).1) := by
  obtain ⟨begun, looked, states, status, version, parts, others, looks, found⟩ :=
    looked_of_success stored alive apart ends
  obtain ⟨version', same⟩ := workedOn_eq g.cluster t
  refine ⟨_, found, fun awaits => ?_⟩
  have phase : status.phase = .awaitingData := awaits
  have served {s : Service} (found : d.registry.forUrl? (workedOn g.cluster t).spec.providerUrl = some s) :
      d.registry.forUrl? t.spec.providerUrl = some s := by
    rw [same] at found
    exact found
  have wish (s : Service) : linkState (workedOn g.cluster t) s = linkState t s := by
    rw [same]
    rfl
  have unchanged : (workedOn g.cluster t).status = t.status := by rw [same]
  cases looks with
  | awaiting serves misses offers =>
    refine ⟨_, served serves, ?_⟩
    rw [parts]
    exact published_of_offers links misses offers (wish _) unchanged rfl (wish _) others
  | unserved => simp [TokenStatus.failed] at phase
  | unsupported => simp [TokenStatus.invalid] at phase
  | refused => simp [TokenStatus.invalid] at phase
  | ready => simp [TokenStatus.ready] at phase

end apart

/-- After every pass that leaves a token without data its link says what is asked for the token. Whoever
looks at a link that was stored at some point of a run finds its contents acceptable then and at any
later point, if the clock is not set back and only passes write statuses. -/
theorem links_published (links : d.links = some b) :
    (∀ (k : Key) (g : Ground) (comes : Nat → Between) (t : AccessToken) (a : Action),
      g.cluster.tokens.get? k = some t → t.isDeleting = false → LeaveTokens comes →
      ((d.pass k).play comes 0 g).2 = .ok a →
      ∃ left, (reached g ((d.pass k).play comes 0 g).1).tokens.get? k = some left ∧
        (left.status.phase = .awaitingData → ∃ s, d.registry.forUrl? t.spec.providerUrl = some s ∧
          Published b s t left ((d.pass k).play comes 0 g).1)) ∧
    ∀ (outset : Cluster.Outset) (early late : List Move),
      Traffic.Always outset Traffic.Minds (early ++ late) →
      ∀ (k : Key) (t : AccessToken), (Traffic.run outset early).cluster.tokens.get? k = some t →
      t.status.link = "" ∨ ∃ (maker : LinkBuilder) (contents : LinkState),
        t.status.link = String.ofList (maker.link contents) ∧
        maker.key.parseState (String.ofList (maker.key.sign contents.toValue))
          (Traffic.run outset (early ++ late)).cluster.clock = .ok contents ∧
        ∀ (key : SigningKey) (issued now : Int64),
          key.parseState (String.ofList (maker.key.sign contents.toValue))
            (Traffic.run outset (early ++ late)).cluster.clock ≠ .error (.future issued now) := by
  constructor
  · intro k g comes t a stored alive apart ends
    exact published_of_success links stored alive apart ends
  · intro outset early late minds k t stored
    generalize link : t.status.link = text
    have dated := Traffic.dated_of_stored minds stored
    rw [link] at dated
    cases dated with
    | none => exact .inl rfl
    | built maker past =>
      exact .inr ⟨maker, _, rfl, SigningKey.parseState_of_past past,
        fun key => SigningKey.parseState_ne_future past⟩

/-- A cluster with a token alone whose link is out of date. -/
def staleGround : Ground := (Ground.bare (.serial 5)).answer .quiet (.tokens (.create outdatedToken))

/-- Some time has gone by, and nobody else asks for anything. -/
def soonAfter (_ : Nat) : Between := ⟨[], 7, .quiet⟩

/-- The pass over that token there. -/
def stalePlay : List Exchange × Except Failure Action :=
  (linkingDesk.pass outdatedToken.key).play soonAfter 0 staleGround

/-- A token is created, and a pass over it goes on to its end. -/
def linkingMoves : List Move :=
  [.outside (.tokens (.create awaitedToken)), .begins (.token linkingDesk awaitedToken.key),
    .answered 0 .quiet, .answered 0 .quiet, .answered 0 .quiet, .answered 0 .quiet, .answered 0 .quiet]

/-- The link that is out of date is replaced, and a link that another pass has made is not from the
future four seconds later. -/
theorem links_published_stale : ∃ b s t left, linkingDesk.links = some b ∧
    staleGround.cluster.tokens.get? outdatedToken.key = some t ∧ ¬ Current b s t ∧
    (reached staleGround stalePlay.1).tokens.get? outdatedToken.key = some left ∧
    left.status.phase = .awaitingData ∧ Published b s t left stalePlay.1 ∧
    ∃ u maker contents, (Traffic.run (.serial 5) linkingMoves).cluster.tokens.get? awaitedToken.key = some u ∧
      u.status.link = String.ofList (LinkBuilder.link maker contents) ∧
      maker.key.parseState (String.ofList (maker.key.sign contents.toValue)) 9 = .ok contents := by
  have present : (staleGround.cluster.tokens.get? outdatedToken.key).isSome = true := by decide +kernel
  have facts : ∀ t ∈ staleGround.cluster.tokens.get? outdatedToken.key, t.isDeleting = false ∧
      ∀ b ∈ linkingDesk.links, b.published? t.status.link.toList = none := by
    decide +kernel
  have played : stalePlay.2 = .ok .await ∧
      ∀ left ∈ (reached staleGround stalePlay.1).tokens.get? outdatedToken.key,
        left.status.phase = .awaitingData := by
    decide +kernel
  have moved : Traffic.Always (.serial 5) Traffic.Minds (linkingMoves ++ [.time 9]) ∧
      ((Traffic.run (.serial 5) linkingMoves).cluster.tokens.get? awaitedToken.key).any
        (·.status.link != "") := by
    decide +kernel
  obtain ⟨t, stored⟩ := Option.isSome_iff_exists.mp present
  obtain ⟨alive, foreign⟩ := facts t stored
  obtain ⟨ends, awaits⟩ := played
  obtain ⟨minds, linked⟩ := moved
  obtain ⟨u, there, linked⟩ := (Option.any_eq_true _ _).mp linked
  have apart : LeaveTokens soonAfter := by simp [LeaveTokens, soonAfter]
  obtain ⟨publishes, accepted⟩ := links_published (d := linkingDesk) rfl
  obtain ⟨left, found, published⟩ := publishes _ _ _ t _ stored alive apart ends
  obtain ⟨s, _, published⟩ := published (awaits left found)
  rcases accepted (.serial 5) linkingMoves [.time 9] minds _ u there with none | ⟨maker, contents, link, parses, _⟩
  · exact absurd none (bne_iff_ne.mp linked)
  · refine ⟨_, s, t, left, rfl, stored, ?_, found, awaits left found, published, u, maker, contents,
      there, link, parses⟩
    rintro ⟨_, contents, read, _⟩
    exact Option.some_ne_none _ (read.symm.trans (foreign _ rfl))

end TokenDesk

end TokenSteward
