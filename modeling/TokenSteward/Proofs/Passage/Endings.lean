import TokenSteward.Proofs.Passage.Token

/-! # How a pass over a token ends

The exchanges of a pass, one after the other, lead to its result. What follows lists all ways from the
first exchange to the result: the ways to the status of a token, the ways through the work on it, and
the ways by which a token is let go.
-/

namespace TokenSteward

open TokenSteward.Cluster TokenSteward.Resource TokenSteward.Secret TokenSteward.Provider
open TokenSteward.OAuth Pass

namespace TokenDesk

variable {d : TokenDesk} {k : Key} {t w : AccessToken} {s : Service} {past : List Exchange}

/-! ## To the status -/

/-- How a token without a record gets its link: none where no links are made, the one that it has if it
says the same, else a new one with the time that the clock tells. -/
inductive Offers (d : TokenDesk) (w : AccessToken) (s : Service) : List Exchange → String → Prop where
  | none (unlinked : d.links = none) : Offers d w s [] ""
  | kept {b : LinkBuilder} (links : d.links = some b) (same : reusable b w (linkState w s) = true) :
      Offers d w s [] w.status.link
  | made {b : LinkBuilder} {x : Exchange} {now : Int64} (links : d.links = some b)
      (other : reusable b w (linkState w s) = false) (asks : x.Tells .clock now) :
      Offers d w s [x] (String.ofList (b.link ((linkState w s).dated now)))

/-- A record of a token was found. -/
def Finds (w : AccessToken) (r : Record) (x : Exchange) : Prop :=
  x.Tells (.vault (.get w)) (.ok (some r))

/-- A provider has told what a record lacks. -/
def Checks (w : AccessToken) (s : Service) (r : Record) (v : Validation) (x : Exchange) : Prop :=
  x.Tells (.provider s (.validate r w.spec.permissions)) (.ok v)

/-- All ways to the status of a token. -/
inductive Looked (d : TokenDesk) (w : AccessToken) :
    List Exchange → Except Failure TokenStatus → Prop where
  | unserved (nobody : d.registry.forUrl? w.spec.providerUrl = none) :
      Looked d w [] (.ok (.failed .unknownServiceProvider
        (SettingsFault.unknownProvider w.spec.providerUrl).message))
  | outage {s : Service} {x : Exchange} {f : VaultFailure}
      (served : d.registry.forUrl? w.spec.providerUrl = some s)
      (fails : x.Tells (.vault (.get w)) (.error f)) : Looked d w [x] (.error (.vault f))
  | awaiting {s : Service} {x : Exchange} {linked : List Exchange} {link : String}
      (served : d.registry.forUrl? w.spec.providerUrl = some s)
      (misses : x.Tells (.vault (.get w)) (.ok none)) (offers : d.Offers w s linked link) :
      Looked d w (x :: linked) (.ok (.awaiting link))
  | unchecked {s : Service} {x y : Exchange} {r : Record} {f : ProviderFailure}
      (served : d.registry.forUrl? w.spec.providerUrl = some s) (finds : Finds w r x)
      (fails : y.Tells (.provider s (.validate r w.spec.permissions)) (.error f)) :
      Looked d w [x, y] (.error (.provider f))
  | unsupported {s : Service} {x y : Exchange} {r : Record} {v : Validation}
      (served : d.registry.forUrl? w.spec.providerUrl = some s) (finds : Finds w r x)
      (checks : Checks w s r v y) (lacks : v.isValid = false) :
      Looked d w [x, y] (.ok (.invalid .unsupportedPermissions v.message))
  | refused {s : Service} {x y z : Exchange} {r : Record} {v : Validation} {f : ProviderFailure}
      (served : d.registry.forUrl? w.spec.providerUrl = some s) (finds : Finds w r x)
      (checks : Checks w s r v y) (valid : v.isValid = true)
      (fails : z.Tells (.provider s (.persist w r)) (.error f)) (refusal : f.isRefusal = true) :
      Looked d w [x, y, z] (.ok (.invalid .metadataFailure f.message))
  | unheld {s : Service} {x y z : Exchange} {r : Record} {v : Validation} {f : ProviderFailure}
      (served : d.registry.forUrl? w.spec.providerUrl = some s) (finds : Finds w r x)
      (checks : Checks w s r v y) (valid : v.isValid = true)
      (fails : z.Tells (.provider s (.persist w r)) (.error f)) (passing : f.isRefusal = false) :
      Looked d w [x, y, z] (.error (.provider f))
  | ready {s : Service} {x y z : Exchange} {r : Record} {v : Validation} {holder : Holder}
      (served : d.registry.forUrl? w.spec.providerUrl = some s) (finds : Finds w r x)
      (checks : Checks w s r v y) (valid : v.isValid = true)
      (tells : z.Tells (.provider s (.persist w r)) (.ok holder)) :
      Looked d w [x, y, z] (.ok (.ready holder))

private theorem offers_of_yields {result : Except Failure TokenStatus}
    (yields : (d.awaitingStatus w s).Yields past result) :
    ∃ link, d.Offers w s past link ∧ result = .ok (.awaiting link) := by
  unfold awaitingStatus at yields
  split at yields
  · next unlinked =>
    obtain ⟨rfl, rfl⟩ := yields_pure.mp yields
    exact ⟨"", .none unlinked, rfl⟩
  · next b links =>
    dsimp only at yields
    split at yields
    · next same =>
      obtain ⟨rfl, rfl⟩ := yields_pure.mp yields
      exact ⟨_, .kept links same, rfl⟩
    · next other =>
      rcases yields_bind.mp yields with ⟨f, fails, _⟩ | ⟨first, rest, now, rfl, asks, ends⟩
      · obtain ⟨_, _, _, _, none⟩ := yields_attempt.mp fails
        contradiction
      · obtain ⟨x, answer, rfl, tells, same⟩ := yields_attempt.mp asks
        obtain ⟨rfl, rfl⟩ := yields_pure.mp ends
        obtain rfl : now = answer := Except.ok.inj same
        exact ⟨_, .made links (by simpa using other) tells, rfl⟩

/-- There are no other ways to the status of a token. -/
theorem looked_of_yields {result : Except Failure TokenStatus}
    (yields : (d.desiredStatus w).Yields past result) : d.Looked w past result := by
  unfold desiredStatus at yields
  split at yields
  · next nobody =>
    obtain ⟨rfl, rfl⟩ := yields_pure.mp yields
    exact .unserved nobody
  · next s served =>
    rcases yields_bind.mp yields with ⟨f, fails, rfl⟩ | ⟨first, rest, found, rfl, asks, goesOn⟩
    · obtain ⟨x, f | found, rfl, tells, same⟩ := yields_vault.mp fails
      · obtain rfl := Except.error.inj same
        exact .outage served tells
      · contradiction
    · obtain ⟨x, f | found', rfl, tells, same⟩ := yields_vault.mp asks
      · contradiction
      obtain rfl : found = found' := Except.ok.inj same
      cases found with
      | none =>
        obtain ⟨link, offers, rfl⟩ := offers_of_yields goesOn
        exact .awaiting served tells offers
      | some r =>
        rcases yields_bind.mp goesOn with ⟨f, fails, rfl⟩ | ⟨second, rest, v, rfl, asks', ends⟩
        · obtain ⟨y, f | v, rfl, told, same⟩ := yields_provider.mp fails
          · obtain rfl := Except.error.inj same
            exact .unchecked served tells told
          · contradiction
        · obtain ⟨y, f | v', rfl, told, same⟩ := yields_provider.mp asks'
          · contradiction
          obtain rfl : v = v' := Except.ok.inj same
          split at ends
          · next lacks =>
            obtain ⟨rfl, rfl⟩ := yields_pure.mp ends
            exact .unsupported served tells told (by simpa using lacks)
          · next fine =>
            have valid : v.isValid = true := by simpa using fine
            rcases yields_bind.mp ends with ⟨f, fails, _⟩ | ⟨third, rest, answer, rfl, asks, last⟩
            · obtain ⟨_, _, _, _, none⟩ := yields_attempt.mp fails
              contradiction
            · obtain ⟨z, answer', rfl, holds, same⟩ := yields_attempt.mp asks
              obtain rfl : answer = answer' := Except.ok.inj same
              cases answer with
              | ok holder =>
                obtain ⟨rfl, rfl⟩ := yields_pure.mp last
                exact .ready served tells told valid holds
              | error f =>
                dsimp only at last
                split at last
                · next refusal =>
                  obtain ⟨rfl, rfl⟩ := yields_pure.mp last
                  exact .refused served tells told valid holds refusal
                · next passing =>
                  obtain ⟨rfl, rfl⟩ := last
                  exact .unheld served tells told valid holds (by simpa using passing)

/-! ## Through the work on a status -/

/-- All ways through the work on a status. -/
inductive WorkEnded (d : TokenDesk) (w : AccessToken) : List Exchange → Except Failure Action → Prop where
  | unknown {looked : List Exchange} {f : Failure} (looks : (d.desiredStatus w).Yields looked (.error f)) :
      WorkEnded d w looked (.error f)
  | same {looked : List Exchange} (looks : (d.desiredStatus w).Yields looked (.ok w.status)) :
      WorkEnded d w looked (.ok .await)
  | unstated {looked : List Exchange} {status : TokenStatus} {x : Exchange} {f : StoreFailure}
      (looks : (d.desiredStatus w).Yields looked (.ok status)) (differs : status ≠ w.status)
      (fails : x.Tells (.tokens (.updateStatus { w with status := status })) (.error f)) :
      WorkEnded d w (looked ++ [x]) (.error (.store f))
  | stated {looked : List Exchange} {status : TokenStatus} {x : Exchange} {a : AccessToken}
      (looks : (d.desiredStatus w).Yields looked (.ok status)) (differs : status ≠ w.status)
      (states : x.Tells (.tokens (.updateStatus { w with status := status })) (.ok a)) :
      WorkEnded d w (looked ++ [x]) (.ok .await)

theorem workEnded_of_yields {result : Except Failure Action} (yields : (d.work w).Yields past result) :
    d.WorkEnded w past result := by
  unfold work at yields
  rcases yields_bind.mp yields with ⟨f, fails, rfl⟩ | ⟨looked, rest, status, rfl, looks, goesOn⟩
  · exact .unknown fails
  · split at goesOn
    · next differs =>
      rcases yields_bind.mp goesOn with ⟨f, fails, rfl⟩ | ⟨first, rest, a, rfl, states, ends⟩
      · obtain ⟨x, f | a, rfl, tells, same⟩ := yields_tokens_iff.mp fails
        · obtain rfl := Except.error.inj same
          exact .unstated looks differs tells
        · contradiction
      · obtain ⟨x, rfl, tells⟩ := yields_tokens.mp states
        obtain ⟨rfl, rfl⟩ := yields_pure.mp ends
        rw [List.append_nil]
        exact .stated looks differs tells
    · next same =>
      obtain rfl : status = w.status := by simpa using same
      obtain ⟨rfl, rfl⟩ := yields_pure.mp goesOn
      rw [List.append_nil]
      exact .same looks

/-! ## To the end of letting go -/

/-- All ways by which a token is let go, once the bindings that hold it are known. -/
inductive Released (d : TokenDesk) (t : AccessToken) (linked : List Binding)
    (outcome : Except VaultFailure Unit) : List Exchange → Except Failure Action → Prop where
  | same {result : Except Failure Action}
      (kept : (cleaned (unlinked t linked) outcome).metadata.guards = t.metadata.guards)
      (ends : (d.ending (t.metadata.hasGuard bindingsGuard && !linked.isEmpty) outcome).Yields [] result) :
      Released d t linked outcome [] result
  | unwritten {x : Exchange} {f : StoreFailure}
      (fewer : (cleaned (unlinked t linked) outcome).metadata.guards ≠ t.metadata.guards)
      (fails : x.Tells (.tokens (.update (cleaned (unlinked t linked) outcome))) (.error f)) :
      Released d t linked outcome [x] (.error (.store f))
  | written {x : Exchange} {a : AccessToken} {result : Except Failure Action}
      (fewer : (cleaned (unlinked t linked) outcome).metadata.guards ≠ t.metadata.guards)
      (writes : x.Tells (.tokens (.update (cleaned (unlinked t linked) outcome))) (.ok a))
      (ends : (d.ending (t.metadata.hasGuard bindingsGuard && !linked.isEmpty) outcome).Yields [] result) :
      Released d t linked outcome [x] result

/-- All ways by which a token is let go. -/
inductive ReleaseEnded (d : TokenDesk) (t : AccessToken) : List Exchange → Except Failure Action → Prop where
  | unlisted {listed : List Exchange} {f : Failure} (fails : (holders t).Yields listed (.error f)) :
      ReleaseEnded d t listed (.error f)
  | listed {listed gone rest : List Exchange} {linked : List Binding}
      {outcome : Except VaultFailure Unit} {result : Except Failure Action}
      (lists : (holders t).Yields listed (.ok linked))
      (cleans : (cleanup (unlinked t linked)).Yields gone (.ok outcome))
      (releases : d.Released t linked outcome rest result) :
      ReleaseEnded d t (listed ++ (gone ++ rest)) result

private theorem nil_of_ending {blocked : Bool} {outcome : Except VaultFailure Unit}
    {result : Except Failure Action} (yields : (d.ending blocked outcome).Yields past result) :
    past = [] := by
  cases outcome with
  | ok u => exact yields.1
  | error f => exact yields.1

theorem releaseEnded_of_yields {result : Except Failure Action} (yields : (d.finalize t).Yields past result) :
    d.ReleaseEnded t past result := by
  rw [finalize_eq] at yields
  rcases yields_bind.mp yields with ⟨f, fails, rfl⟩ | ⟨listed, rest, linked, rfl, lists, goesOn⟩
  · exact .unlisted fails
  · rcases yields_bind.mp goesOn with ⟨f, fails, _⟩ | ⟨gone, rest, outcome, rfl, cleans, last⟩
    · exfalso
      unfold cleanup at fails
      split at fails
      · obtain ⟨_, _, _, _, none⟩ := yields_attempt.mp fails
        contradiction
      · obtain ⟨_, none⟩ := yields_pure.mp fails
        contradiction
    · refine .listed lists cleans ?_
      unfold writeGuards at last
      rcases yields_bind.mp last with ⟨f, fails, rfl⟩ | ⟨first, rest, _, rfl, writes, ends⟩
      · split at fails
        · next fewer =>
          rcases yields_bind.mp fails with ⟨f, fails, same⟩ | ⟨_, _, _, _, _, none⟩
          · obtain rfl := Except.error.inj same
            obtain ⟨x, f | a, rfl, tells, same⟩ := yields_tokens_iff.mp fails
            · obtain rfl := Except.error.inj same
              exact .unwritten fewer tells
            · contradiction
          · obtain ⟨_, none⟩ := yields_pure.mp none
            contradiction
        · obtain ⟨_, none⟩ := yields_pure.mp fails
          contradiction
      · obtain rfl := nil_of_ending ends
        split at writes
        · next fewer =>
          rcases yields_bind.mp writes with ⟨_, _, none⟩ | ⟨one, none, a, rfl, writes, ends'⟩
          · contradiction
          · obtain ⟨x, rfl, tells⟩ := yields_tokens.mp writes
            obtain ⟨rfl, _⟩ := yields_pure.mp ends'
            exact .written fewer tells ends
        · next kept =>
          obtain ⟨rfl, _⟩ := yields_pure.mp writes
          exact .same (Decidable.not_not.mp kept) ends

/-! ## Through a whole pass -/

/-- All ways through a pass over a token. -/
inductive Ended (d : TokenDesk) (k : Key) : List Exchange → Except Failure Action → Prop where
  | unread {x : Exchange} {f : StoreFailure} (fails : x.Tells (.tokens (.get k)) (.error f)) :
      Ended d k [x] (.error (.store f))
  | absent {x : Exchange} (misses : x.Tells (.tokens (.get k)) (.ok none)) : Ended d k [x] (.ok .await)
  | letGo {t : AccessToken} {x : Exchange} {rest : List Exchange} {result : Except Failure Action}
      (reads : Reads k t x) (deleting : t.isDeleting = true) (goes : d.ReleaseEnded t rest result) :
      Ended d k (x :: rest) result
  | unput {t : AccessToken} {x y : Exchange} {f : StoreFailure} (reads : Reads k t x)
      (alive : t.isDeleting = false) (bare : isUnguarded t = true)
      (fails : y.Tells (.tokens (.update (guarded t))) (.error f)) :
      Ended d k [x, y] (.error (.store f))
  | worked {t w : AccessToken} {begun rest : List Exchange} {result : Except Failure Action}
      (begins : Begun k t w begun) (works : d.WorkEnded w rest result) : Ended d k (begun ++ rest) result

theorem ended_of_yields {result : Except Failure Action} (yields : (d.pass k).Yields past result) :
    d.Ended k past result := by
  rw [pass_eq] at yields
  rcases yields_bind.mp yields with ⟨f, fails, rfl⟩ | ⟨first, rest, found, rfl, read, goesOn⟩
  · obtain ⟨x, f | found, rfl, tells, same⟩ := yields_tokens_iff.mp fails
    · obtain rfl := Except.error.inj same
      exact .unread tells
    · contradiction
  · obtain ⟨x, rfl, reads⟩ := yields_tokens.mp read
    cases found with
    | none =>
      obtain ⟨rfl, rfl⟩ := yields_pure.mp goesOn
      exact .absent reads
    | some t =>
      dsimp only at goesOn
      split at goesOn
      · next deleting => exact .letGo reads deleting (releaseEnded_of_yields goesOn)
      · next notDeleting =>
        have alive : t.isDeleting = false := by simpa using notDeleting
        split at goesOn
        · next bare =>
          rcases yields_bind.mp goesOn with ⟨f, fails, rfl⟩ | ⟨second, rest, w, rfl, put, works⟩
          · obtain ⟨y, f | w, rfl, tells, same⟩ := yields_tokens_iff.mp fails
            · obtain rfl := Except.error.inj same
              exact .unput reads alive bare tells
            · contradiction
          · obtain ⟨y, rfl, puts⟩ := yields_tokens.mp put
            change d.Ended k ([x, y] ++ rest) result
            exact .worked (.put reads alive bare puts) (workEnded_of_yields works)
        · next guarded =>
          exact .worked (.read reads alive (by simpa using guarded)) (workEnded_of_yields goesOn)

/-- Each play of a pass over a token goes one of these ways. -/
theorem ended_of_play (d : TokenDesk) (k : Key) (g : Ground) (comes : Nat → Between) :
    d.Ended k ((d.pass k).play comes 0 g).1 ((d.pass k).play comes 0 g).2 :=
  ended_of_yields (yields_of_play (d.pass k) comes 0 g)

end TokenDesk

/-! ## While others leave the tokens alone -/

/-- Nobody else asks the tokens' store for anything. -/
def LeaveTokens (comes : Nat → Between) : Prop :=
  ∀ n, ∀ o ∈ (comes n).others, ∀ q, o.2 ≠ .tokens q

variable {comes : Nat → Between} {g : Ground} {d : TokenDesk} {k : Key} {t u : AccessToken}
  {past late : List Exchange} {x : Exchange}

theorem LeaveTokens.tokens_answer (apart : LeaveTokens comes) :
    ∀ n, ∀ o ∈ (comes n).others, ∀ c : Cluster, (c.answer o.1 o.2).2.tokens = c.tokens :=
  fun n o here c => c.tokens_answer o.1 o.2 (apart n o here)

namespace TokenDesk

/-- A request of a pass meets the tokens as the one before has left them. -/
theorem tokens_met (apart : LeaveTokens comes)
    (parts : ((d.pass k).play comes 0 g).1 = past ++ x :: late) :
    x.cluster.tokens = (reached g past).tokens :=
  met_of_apart (fun _ _ => rfl) apart.tokens_answer parts

/-- The token that is read first is the one that is stored when the pass begins. -/
theorem Reads.first (reads : Reads k u x) (apart : LeaveTokens comes)
    (parts : ((d.pass k).play comes 0 g).1 = [] ++ x :: late)
    (stored : g.cluster.tokens.get? k = some t) : u = t ∧ x.cluster.tokens = g.cluster.tokens := by
  have met : x.cluster.tokens = g.cluster.tokens := tokens_met apart parts
  have found := reads.stored.1
  rw [met, stored] at found
  exact ⟨(Option.some.inj found).symm, met⟩

/-- If no token is read, then none is stored when the pass begins. -/
theorem not_stored_of_absent (apart : LeaveTokens comes)
    (parts : ((d.pass k).play comes 0 g).1 = [] ++ x :: late)
    (misses : x.Tells (.tokens (.get k)) (.ok none)) : g.cluster.tokens.get? k ≠ some t := by
  have met : x.cluster.tokens = g.cluster.tokens := tokens_met apart parts
  have found : x.cluster.tokens.get? k = none := Except.ok.inj (Prod.mk.inj misses.tokens).1
  rw [← met, found]
  simp

end TokenDesk

end TokenSteward
