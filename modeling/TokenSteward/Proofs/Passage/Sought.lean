import TokenSteward.Proofs.Passage.Binding

/-! # How a pass over a binding ends

What follows lists all ways from the first exchange of a pass over a binding to its result. The token
is sought after in three places: the one that the label names, then the one that a provider finds, then
a new one. Each place is looked at only if there was nothing in those before.
-/

namespace TokenSteward.BindingDesk

open TokenSteward.Cluster TokenSteward.Resource TokenSteward.Provider Pass

/-- The label of a binding names no token, or none that is stored. -/
inductive Unlabelled (b : Binding) : List Exchange → Prop where
  | unnamed (none : Binding.linkedKey? b = none) : Unlabelled b []
  | gone {j : Key} {x : Exchange} (named : Binding.linkedKey? b = some j)
      (misses : x.Tells (.tokens (.get j)) (.ok none)) : Unlabelled b [x]

/-- All ways to search for a binding's token. -/
inductive Sought (d : BindingDesk) (b : Binding) :
    List Exchange → Except Failure Resolution → Prop where
  | unserved (nobody : d.registry.forUrl? b.spec.repoUrl = none) :
      Sought d b [] (.ok (.failed .unknownServiceProvider
        (SettingsFault.unknownProvider b.spec.repoUrl).message))
  | unread {s : Service} {j : Key} {x : Exchange} {f : StoreFailure}
      (served : d.registry.forUrl? b.spec.repoUrl = some s) (named : Binding.linkedKey? b = some j)
      (fails : x.Tells (.tokens (.get j)) (.error f)) : Sought d b [x] (.error (.store f))
  | kept {s : Service} {j : Key} {x : Exchange} {token : AccessToken}
      (served : d.registry.forUrl? b.spec.repoUrl = some s) (named : Binding.linkedKey? b = some j)
      (reads : x.Tells (.tokens (.get j)) (.ok (some token))) : Sought d b [x] (.ok (.linked token))
  | found {s : Service} {first : List Exchange} {x : Exchange} {token : AccessToken}
      (served : d.registry.forUrl? b.spec.repoUrl = some s) (before : Unlabelled b first)
      (finds : x.Tells (.provider s (.lookup b)) (.ok (some token))) :
      Sought d b (first ++ [x]) (.ok (.linked token))
  | made {s : Service} {first : List Exchange} {x y : Exchange} {token : AccessToken}
      (served : d.registry.forUrl? b.spec.repoUrl = some s) (before : Unlabelled b first)
      (misses : x.Tells (.provider s (.lookup b)) (.ok none))
      (makes : y.Tells (.tokens (.create (freshToken b s))) (.ok token)) :
      Sought d b (first ++ [x, y]) (.ok (.linked token))
  | unmade {s : Service} {first : List Exchange} {x y : Exchange} {f : StoreFailure}
      (served : d.registry.forUrl? b.spec.repoUrl = some s) (before : Unlabelled b first)
      (misses : x.Tells (.provider s (.lookup b)) (.ok none))
      (fails : y.Tells (.tokens (.create (freshToken b s))) (.error f)) :
      Sought d b (first ++ [x, y]) (.error (.store f))
  | refused {s : Service} {first : List Exchange} {x : Exchange} {f : ProviderFailure}
      (served : d.registry.forUrl? b.spec.repoUrl = some s) (before : Unlabelled b first)
      (fails : x.Tells (.provider s (.lookup b)) (.error f)) (refusal : f.isRefusal = true) :
      Sought d b (first ++ [x]) (.ok (.failed .tokenLookupFailed f.message))
  | unfound {s : Service} {first : List Exchange} {x : Exchange} {f : ProviderFailure}
      (served : d.registry.forUrl? b.spec.repoUrl = some s) (before : Unlabelled b first)
      (fails : x.Tells (.provider s (.lookup b)) (.error f)) (passing : f.isRefusal = false) :
      Sought d b (first ++ [x]) (.error (.provider f))

/-- All ways through a pass over a binding. -/
inductive Ended (d : BindingDesk) (k : Key) : List Exchange → Except Failure Action → Prop where
  | unread {x : Exchange} {f : StoreFailure} (fails : x.Tells (.bindings (.get k)) (.error f)) :
      Ended d k [x] (.error (.store f))
  | absent {x : Exchange} (misses : x.Tells (.bindings (.get k)) (.ok none)) : Ended d k [x] (.ok .await)
  | leaving {b : Binding} {x : Exchange} (reads : Reads k b x) (deleting : b.isDeleting = true) :
      Ended d k [x] (.ok .await)
  | unknown {b : Binding} {x : Exchange} {sought : List Exchange} {f : Failure} (reads : Reads k b x)
      (alive : b.isDeleting = false) (seeks : d.Sought b sought (.error f)) :
      Ended d k (x :: sought) (.error f)
  | unlinked {b : Binding} {x y : Exchange} {sought : List Exchange} {token : AccessToken}
      {f : StoreFailure} (reads : Reads k b x) (alive : b.isDeleting = false)
      (seeks : d.Sought b sought (.ok (.linked token)))
      (other : Binding.linkedToken? b ≠ some token.metadata.name)
      (fails : y.Tells (.bindings (.update (labelled b token.metadata.name))) (.error f)) :
      Ended d k (x :: (sought ++ [y])) (.error (.store f))
  | same {b w : Binding} {x : Exchange} {sought labels : List Exchange} {resolution : Resolution}
      (reads : Reads k b x) (alive : b.isDeleting = false) (seeks : d.Sought b sought (.ok resolution))
      (linked : Linked b resolution w labels) (same : statusOf b resolution = w.status) :
      Ended d k (x :: (sought ++ labels)) (.ok .await)
  | unstated {b w : Binding} {x y : Exchange} {sought labels : List Exchange} {resolution : Resolution}
      {f : StoreFailure} (reads : Reads k b x) (alive : b.isDeleting = false)
      (seeks : d.Sought b sought (.ok resolution)) (linked : Linked b resolution w labels)
      (differs : statusOf b resolution ≠ w.status)
      (fails : y.Tells (.bindings (.updateStatus { w with status := statusOf b resolution })) (.error f)) :
      Ended d k (x :: (sought ++ labels) ++ [y]) (.error (.store f))
  | stated {b w a : Binding} {x y : Exchange} {sought labels : List Exchange} {resolution : Resolution}
      (reads : Reads k b x) (alive : b.isDeleting = false) (seeks : d.Sought b sought (.ok resolution))
      (linked : Linked b resolution w labels) (differs : statusOf b resolution ≠ w.status)
      (states : y.Tells (.bindings (.updateStatus { w with status := statusOf b resolution })) (.ok a)) :
      Ended d k (x :: (sought ++ labels) ++ [y]) (.ok .await)

variable {d : BindingDesk} {k : Key} {b w : Binding} {past : List Exchange}

/-! ## To the token -/

theorem yields_currentToken {result : Except Failure (Option AccessToken)}
    (yields : (currentToken b).Yields past result) :
    (Unlabelled b past ∧ result = .ok none) ∨
      ∃ j x, Binding.linkedKey? b = some j ∧ past = [x] ∧
        ((∃ f, x.Tells (.tokens (.get j)) (.error f) ∧ result = .error (.store f)) ∨
          ∃ token, x.Tells (.tokens (.get j)) (.ok (some token)) ∧ result = .ok (some token)) := by
  unfold currentToken at yields
  split at yields
  · next none =>
    obtain ⟨rfl, rfl⟩ := yields_pure.mp yields
    exact .inl ⟨.unnamed none, rfl⟩
  · next j named =>
    obtain ⟨x, f | _ | token, rfl, tells, rfl⟩ := yields_tokens_iff.mp yields
    · exact .inr ⟨j, x, named, rfl, .inl ⟨f, tells, rfl⟩⟩
    · exact .inl ⟨.gone named tells, rfl⟩
    · exact .inr ⟨j, x, named, rfl, .inr ⟨token, tells, rfl⟩⟩

/-- There are no other ways to search. -/
theorem sought_of_yields {result : Except Failure Resolution} (yields : (d.resolve b).Yields past result) :
    d.Sought b past result := by
  unfold resolve at yields
  split at yields
  · next nobody =>
    obtain ⟨rfl, rfl⟩ := yields_pure.mp yields
    exact .unserved nobody
  · next s served =>
    rcases yields_bind.mp yields with ⟨f, fails, rfl⟩ | ⟨first, rest, found, rfl, looks, goesOn⟩
    · rcases yields_currentToken fails with ⟨_, none⟩ | ⟨j, x, named, rfl, ⟨g, told, same⟩ | ⟨_, _, none⟩⟩
      · contradiction
      · obtain rfl := Except.error.inj same
        exact .unread served named told
      · contradiction
    · rcases yields_currentToken looks with ⟨before, same⟩ | ⟨j, x, named, rfl, ⟨_, _, none⟩ | ⟨token, told, same⟩⟩
      · obtain rfl := Except.ok.inj same
        dsimp only at goesOn
        rcases yields_bind.mp goesOn with ⟨f, fails, _⟩ | ⟨second, rest, answer, rfl, asks, ends⟩
        · obtain ⟨_, _, _, _, none⟩ := yields_attempt.mp fails
          contradiction
        · obtain ⟨x, answer', rfl, told, same⟩ := yields_attempt.mp asks
          obtain rfl : answer = answer' := Except.ok.inj same
          rcases answer with f | _ | token
          · dsimp only at ends
            split at ends
            · next refusal =>
              obtain ⟨rfl, rfl⟩ := yields_pure.mp ends
              exact .refused served before told refusal
            · next passing =>
              obtain ⟨rfl, rfl⟩ := ends
              exact .unfound served before told (by simpa using passing)
          · rcases yields_bind.mp ends with ⟨f, fails, rfl⟩ | ⟨third, rest, token, rfl, makes, last⟩
            · obtain ⟨y, f | _, rfl, told', same⟩ := yields_tokens_iff.mp fails
              · obtain rfl := Except.error.inj same
                exact .unmade served before told told'
              · contradiction
            · obtain ⟨y, rfl, told'⟩ := yields_tokens.mp makes
              obtain ⟨rfl, rfl⟩ := yields_pure.mp last
              exact .made served before told told'
          · obtain ⟨rfl, rfl⟩ := yields_pure.mp ends
            exact .found served before told
      · contradiction
      · obtain rfl := Except.ok.inj same
        obtain ⟨rfl, rfl⟩ := yields_pure.mp goesOn
        exact .kept served named told

/-! ## To the end -/

/-- The writing of a status is the last step. -/
private theorem ended_of_write {x : Exchange} {sought labels rest : List Exchange}
    {resolution : Resolution} {status : BindingStatus} {result : Except Failure Action}
    (reads : Reads k b x) (alive : b.isDeleting = false) (seeks : d.Sought b sought (.ok resolution))
    (linked : Linked b resolution w labels) (is : status = statusOf b resolution)
    (yields : (if status ≠ w.status then
      (Pass.bindings (.updateStatus { w with status := status }) >>= fun _ => pure Action.await)
      else pure .await).Yields rest result) : d.Ended k (x :: (sought ++ (labels ++ rest))) result := by
  subst is
  have shape : x :: (sought ++ (labels ++ rest)) = x :: (sought ++ labels) ++ rest := by simp
  rw [shape]
  split at yields
  · next differs =>
    rcases yields_bind.mp yields with ⟨f, fails, rfl⟩ | ⟨first, rest, a, rfl, states, ends⟩
    · obtain ⟨y, f | a, rfl, tells, same⟩ := yields_bindings_iff.mp fails
      · obtain rfl := Except.error.inj same
        exact .unstated reads alive seeks linked differs tells
      · contradiction
    · obtain ⟨y, rfl, tells⟩ := yields_bindings.mp states
      obtain ⟨rfl, rfl⟩ := yields_pure.mp ends
      exact .stated reads alive seeks linked differs tells
  · next same =>
    obtain ⟨rfl, rfl⟩ := yields_pure.mp yields
    rw [List.append_nil]
    exact .same reads alive seeks linked (Decidable.not_not.mp same)

theorem ended_of_yields {result : Except Failure Action} (yields : (d.pass k).Yields past result) :
    d.Ended k past result := by
  unfold pass at yields
  rcases yields_bind.mp yields with ⟨f, fails, rfl⟩ | ⟨first, rest, found, rfl, read, goesOn⟩
  · obtain ⟨x, f | found, rfl, tells, same⟩ := yields_bindings_iff.mp fails
    · obtain rfl := Except.error.inj same
      exact .unread tells
    · contradiction
  · obtain ⟨x, rfl, reads⟩ := yields_bindings.mp read
    cases found with
    | none =>
      obtain ⟨rfl, rfl⟩ := yields_pure.mp goesOn
      exact .absent reads
    | some b =>
      dsimp only at goesOn
      split at goesOn
      · next deleting =>
        obtain ⟨rfl, rfl⟩ := yields_pure.mp goesOn
        exact .leaving reads deleting
      · next notDeleting =>
        have alive : b.isDeleting = false := by simpa using notDeleting
        rcases yields_bind.mp goesOn with ⟨f, fails, rfl⟩ | ⟨sought, rest, resolution, rfl, seeks, ends⟩
        · exact .unknown reads alive (sought_of_yields fails)
        · have seeks := sought_of_yields seeks
          cases resolution with
          | failed reason message =>
            have ended := ended_of_write reads alive seeks (.failed reason message) rfl ends
            rwa [List.nil_append] at ended
          | linked token =>
            change (label b token.metadata.name >>= _).Yields rest result at ends
            unfold label at ends
            rcases yields_bind.mp ends with ⟨f, fails, rfl⟩ | ⟨labels, rest, w, rfl, writes, last⟩
            · split at fails
              · obtain ⟨_, none⟩ := yields_pure.mp fails
                contradiction
              · next other =>
                obtain ⟨y, f | w, rfl, tells, same⟩ := yields_bindings_iff.mp fails
                · obtain rfl := Except.error.inj same
                  exact .unlinked reads alive seeks other tells
                · contradiction
            · split at writes
              · next same =>
                obtain ⟨rfl, unchanged⟩ := yields_pure.mp writes
                obtain rfl : w = b := Except.ok.inj unchanged
                have ended := ended_of_write reads alive seeks (.kept same) rfl last
                rwa [List.nil_append] at ended
              · next other =>
                obtain ⟨y, rfl, tells⟩ := yields_bindings.mp writes
                have ended := ended_of_write reads alive seeks (.written other tells) rfl last
                exact ended

/-- Each play of a pass over a binding goes one of these ways. -/
theorem ended_of_play (d : BindingDesk) (k : Key) (g : Ground) (comes : Nat → Between) :
    d.Ended k ((d.pass k).play comes 0 g).1 ((d.pass k).play comes 0 g).2 :=
  ended_of_yields (yields_of_play (d.pass k) comes 0 g)

end TokenSteward.BindingDesk
