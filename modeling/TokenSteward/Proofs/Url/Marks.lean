import TokenSteward.Proofs.Url.Hosts

/-! # Where the marks of a URL stand

Each part of a URL that was read is in its written form, in which a mark of a query or a fragment that
would be misread is written by number. So what a URL has before its query and its fragment has no marks,
and the text of a URL has marks just if the URL has a query or a fragment.
-/

namespace TokenSteward.Url

open TokenSteward.Number TokenSteward.Text

/-! ## Schemes -/

theorem endsPath_of_schemeChar? {c small : Char} (read : schemeChar? c = some small) :
    endsPath small = false := by
  unfold schemeChar? at read
  split at read
  · next capital =>
    obtain rfl := Option.some.inj read
    have letters : ∀ n < 91, 65 ≤ n → endsPath (Char.ofNat (n + 32)) = false := by decide
    have low : 'A'.toNat ≤ c.toNat := capital.1
    have high : c.toNat ≤ 'Z'.toNat := capital.2
    exact letters c.toNat (Nat.lt_succ_of_le high) low
  · split at read
    · next fine =>
      obtain rfl := Option.some.inj read
      exact @endsPath_eq_false
        (fun c => decide (('a' ≤ c ∧ c ≤ 'z') ∨ isDigit c ∨ c = '+' ∨ c = '-' ∨ c = '.'))
        (by decide) (by decide) c (decide_eq_true fine)
    · contradiction

theorem unmarked_schemeRest? {s scheme rest : List Char} (read : schemeRest? s = some (scheme, rest)) :
    Unmarked scheme := by
  fun_induction schemeRest? s generalizing scheme with
  | case1 => contradiction
  | case2 => cases read; exact .nil
  | case3 _ _ _ _ ih => exact ih read
  | case4 c s _ _ ih =>
    simp only [Option.bind_eq_bind, Option.bind_eq_some_iff] at read
    obtain ⟨small, letter, ⟨more, rest'⟩, behind, read⟩ := read
    cases read
    exact Unmarked.cons_iff.mpr ⟨endsPath_of_schemeChar? letter, ih behind⟩

theorem unmarked_scheme? {s scheme rest : List Char} (read : scheme? s = some (scheme, rest)) :
    Unmarked scheme := by
  unfold scheme? at read
  split at read
  · contradiction
  · split at read
    · exact unmarked_schemeRest? read
    · contradiction

/-! ## Authorities -/

theorem Authority.unmarked_text {a : Authority} (user : Unmarked a.user) (password : Unmarked a.password)
    (host : ∀ h, a.host = some h → Unmarked h.text) : Unmarked a.text := by
  obtain ⟨name, secret, place, port⟩ := a
  have colon : endsPath ':' = false := by decide
  have at_sign : endsPath '@' = false := by decide
  simp only [Authority.text, Unmarked.append_iff]
  refine ⟨⟨?_, ?_⟩, ?_⟩
  · split
    · exact .nil
    · split <;> simp_all
  · cases place with
    | none => exact .nil
    | some h => exact host h rfl
  · cases port <;> simp [colon, unmarked_digits]

/-- User information is written by number wherever it has a mark. -/
theorem unmarked_credentials {s : List Char} {host : Option Host} {port : Option Nat}
    (named : ∀ h, host = some h → Unmarked h.text) :
    Unmarked (Authority.text ⟨(credentials s).1, (credentials s).2, host, port⟩) :=
  Authority.unmarked_text (unmarked_userEscapes _) (unmarked_userEscapes _) named

/-- An authority that was read has no marks. -/
theorem unmarked_of_readAuthority {k : SchemeClass} {s rest : List Char} {a : Authority}
    (read : readAuthority k s = .ok (a, rest)) : Unmarked a.text := by
  simp only [readAuthority] at read
  split at read
  · contradiction
  · split at read
    · split at read
      · contradiction
      · obtain ⟨host, found, read⟩ := exists_of_bind_eq_ok read
        have named : ∀ h, host = some h → Unmarked h.text := by
          rintro h rfl
          cases formed : Host.ofText (hostPart false (rawAuthority k s).place) with
          | error => simp [formed, Except.map] at found
          | ok host =>
            simp only [formed, Except.map, Except.ok.injEq, Option.some.injEq] at found
            exact found ▸ Host.unmarked_of_ofText formed
        split at read
        · contradiction
        · obtain ⟨port, -, read⟩ := exists_of_bind_eq_ok read
          cases read
          exact unmarked_credentials named
    · obtain ⟨host, formed, read⟩ := exists_of_bind_eq_ok read
      obtain ⟨place, found, read⟩ := exists_of_bind_eq_ok read
      have named : ∀ h, place = some h → Unmarked h.text := by
        rintro h rfl
        have found := Except.ok.inj found
        split at found
        · contradiction
        · exact Option.some.inj found ▸ Host.unmarked_of_ofOpaqueText formed
      split at read
      · contradiction
      · obtain ⟨port, -, read⟩ := exists_of_bind_eq_ok read
        cases read
        exact unmarked_credentials named

/-! ## Paths -/

namespace Walked

variable {k : SchemeClass} {w : Walked}

/-- No segment of a path that is being read has a mark. -/
def Clean (w : Walked) : Prop := ∀ segment ∈ w.segments, Unmarked segment

theorem Clean.add {segment : List Char} (clean : w.Clean) (unmarked : Unmarked segment) :
    (w.add segment).Clean := by
  intro part among
  rcases List.mem_append.mp among with earlier | last
  · exact clean part earlier
  · exact List.mem_singleton.mp last ▸ unmarked

theorem Clean.back (clean : w.Clean) : w.back.Clean := by
  unfold Walked.back
  split
  · split
    · exact clean
    · exact fun part among => clean part (List.dropLast_subset _ among)
  · exact clean

theorem unmarked_drive {c : Char} (letter : isLetter c = true) : Unmarked [c, ':'] := by
  have colon : endsPath ':' = false := by decide
  have first : endsPath c = false := endsPath_eq_false (by decide) (by decide) letter
  simp [first, colon]

theorem unmarked_of_brokenDrive? {s drive rest : List Char}
    (read : brokenDrive? s = some (drive, rest)) : Unmarked drive := by
  fun_induction brokenDrive? s with
  | case1 _ _ _ ih => exact ih read
  | case2 c _ _ _ _ _ _ cut =>
    obtain ⟨rfl, -⟩ := Prod.mk.inj (Option.some.inj read)
    simp only [Bool.and_eq_true] at cut
    exact unmarked_drive cut.1.1
  | case3 => contradiction
  | case4 => contradiction
  | case5 => contradiction

/-- A piece of the text of a path adds segments that are written for a path, or a drive. -/
theorem Clean.step (clean : w.Clean) (isLast : Bool) (piece : List Char) :
    (w.step k isLast piece).Clean := by
  have written := unmarked_pathEscapes (joinedLines piece)
  simp only [Walked.step]
  -- A broken drive, a way back, a stay, a drive, or any other segment.
  split
  · next drive rest broken =>
    split at broken
    · exact (clean.add (unmarked_of_brokenDrive? broken)).add (unmarked_pathEscapes rest)
    · contradiction
  · split
    · split
      · exact clean.back.add .nil
      · exact clean.back
    · split
      · split
        · exact clean.add .nil
        · exact clean
      · split
        · next c mark segment =>
          split
          · next front =>
            simp only [isDrive, Bool.and_eq_true] at front
            exact fun part among => List.mem_singleton.mp among ▸ unmarked_drive front.2.1
          · exact clean.add (segment ▸ written)
        · exact clean.add written

theorem Clean.along (clean : w.Clean) (pieces : List (List Char)) : (along k w pieces).Clean := by
  induction pieces generalizing w with
  | nil => exact clean
  | cons piece rest ih => exact ih (clean.step rest.isEmpty piece)

theorem clean_ofText (k : SchemeClass) (s : List Char) : (ofText k s).Clean :=
  Clean.along (w := ⟨[], false⟩) (List.forall_mem_nil _) (pieces k s)

end Walked

theorem unmarked_properSegments {k : SchemeClass} {all : List (List Char)}
    (each : ∀ part ∈ all, Unmarked part) : ∀ part ∈ properSegments k all, Unmarked part := by
  simp only [properSegments]
  split
  · split
    · simp
    · next rest => exact fun part among => each part ((List.dropWhile_sublist _).subset among)
  · exact each

theorem Path.unmarked_text_segments {all : List (List Char)} (each : ∀ part ∈ all, Unmarked part) :
    Unmarked (Path.text (.segments all)) := by
  have slash : endsPath '/' = false := by decide
  exact .flatMap fun part among => Unmarked.cons_iff.mpr ⟨slash, each part among⟩

/-! ## Whole URLs -/

/-- Neither of the marks stands in what is before the query and the fragment of a URL. -/
structure Clean (u : Url) : Prop where
  scheme : Unmarked u.scheme
  authority : ∀ a, u.authority = some a → Unmarked a.text
  path : Unmarked u.path.text

section Reading

variable {scheme s : List Char} {k : SchemeClass} {u : Url}

theorem clean_assemble {a : Option Authority} {path : List (List Char)} (small : Unmarked scheme)
    (place : ∀ b, a = some b → Unmarked b.text) (each : ∀ part ∈ path, Unmarked part) (s : List Char) :
    (assemble scheme k a path s).Clean :=
  ⟨small, place, Path.unmarked_text_segments (unmarked_properSegments each)⟩

theorem clean_plainUrl {a : Option Authority} (small : Unmarked scheme)
    (place : ∀ b, a = some b → Unmarked b.text) (s : List Char) : (plainUrl scheme k a s).Clean := by
  refine clean_assemble small place ?_ _
  split
  · simp
  · exact Walked.clean_ofText k _

theorem clean_hostlessUrl (small : Unmarked scheme) (s : List Char) : (hostlessUrl scheme s).Clean := by
  have nobody : Unmarked (Authority.text ⟨[], [], none, none⟩) := by decide
  exact clean_assemble small (fun b here => Option.some.inj here ▸ nobody) (Walked.clean_ofText .file _) _

theorem clean_of_hostedUrl (small : Unmarked scheme) (read : hostedUrl scheme s = .ok u) : u.Clean := by
  simp only [hostedUrl] at read
  split at read
  · cases read
    exact clean_hostlessUrl small s
  · split at read
    · cases read
      exact clean_hostlessUrl small _
    · obtain ⟨host, formed, read⟩ := exists_of_bind_eq_ok read
      split at read
      · cases read
        exact clean_hostlessUrl small _
      · cases read
        refine clean_assemble small (fun b here => ?_) (Walked.clean_ofText .file _) _
        cases here
        refine Authority.unmarked_text .nil .nil fun h present => ?_
        have present : (if _ then none else some host) = some h := present
        split at present
        · contradiction
        · exact Option.some.inj present ▸ Host.unmarked_of_ofText formed

theorem clean_of_fileUrl (small : Unmarked scheme) (read : fileUrl scheme s = .ok u) : u.Clean := by
  simp only [fileUrl] at read
  split at read
  · split at read
    · split at read
      · split at read
        · exact clean_of_hostedUrl small read
        · cases read
          exact clean_hostlessUrl small _
      · cases read
        exact clean_hostlessUrl small _
    · cases read
      exact clean_hostlessUrl small _
  · cases read
    exact clean_hostlessUrl small _

theorem unmarked_pathFront (s : List Char) : Unmarked (pathFront s).1 :=
  fun c here => by simpa using List.all_eq_true.mp List.all_takeWhile c here

theorem clean_of_otherUrl (small : Unmarked scheme) (read : otherUrl scheme s = .ok u) : u.Clean := by
  unfold otherUrl at read
  split at read
  · obtain ⟨⟨a, rest⟩, place, read⟩ := exists_of_bind_eq_ok read
    cases read
    exact clean_plainUrl small (fun b here => Option.some.inj here ▸ unmarked_of_readAuthority place) _
  · cases read
    exact clean_plainUrl small (fun b none => by contradiction) _
  · cases read
    exact ⟨small, fun b none => by contradiction, unmarked_controlEscapes (unmarked_pathFront s)⟩

/-- A URL that was read has no marks before its query and its fragment. -/
theorem clean_of_parse {text : String} (read : Url.parse text = .ok u) : u.Clean := by
  unfold Url.parse at read
  split at read
  · contradiction
  · next scheme rest front =>
    have small := unmarked_scheme? front
    split at read
    · exact clean_of_fileUrl small read
    · exact clean_of_otherUrl small read
    · simp only at read
      obtain ⟨⟨a, rest⟩, place, read⟩ := exists_of_bind_eq_ok read
      cases read
      exact clean_plainUrl small (fun b here => Option.some.inj here ▸ unmarked_of_readAuthority place) _

end Reading

/-! ## The text of a URL -/

variable {u : Url}

/-- The text of a URL up to its query and its fragment. -/
def front (u : Url) : List Char := text { u with query := none, fragment := none }

theorem text_eq (u : Url) : u.text =
    u.front ++ ((u.query.map ('?' :: ·)).getD [] ++ (u.fragment.map ('#' :: ·)).getD []) := by
  simp [front, text]

theorem Clean.unmarked_front (clean : u.Clean) : Unmarked u.front := by
  obtain ⟨scheme, place, path⟩ := clean
  have colon : endsPath ':' = false := by decide
  have slash : endsPath '/' = false := by decide
  have dot : Unmarked ['/', '.'] := by decide
  simp only [front, text, Option.map_none, Option.getD_none, List.append_nil, Unmarked.append_iff,
    Unmarked.cons_iff]
  refine ⟨⟨scheme, colon, ?_⟩, path⟩
  split
  · next a named => exact Unmarked.cons_iff.mpr ⟨slash, Unmarked.cons_iff.mpr ⟨slash, place a named⟩⟩
  · split
    · exact dot
    · exact .nil

/-- The first mark in the text of a URL begins its query or its fragment. -/
theorem exists_mark (more : ¬(u.query = none ∧ u.fragment = none)) :
    ∃ mark rest, endsPath mark = true ∧ u.text = u.front ++ mark :: rest := by
  rw [text_eq]
  cases query : u.query with
  | some q => exact ⟨'?', _, by decide, rfl⟩
  | none =>
    cases fragment : u.fragment with
    | some f => exact ⟨'#', f, by decide, rfl⟩
    | none => exact absurd ⟨query, fragment⟩ more

/-- The text of a URL has marks just if the URL has a query or a fragment. -/
theorem Clean.unmarked_text_iff (clean : u.Clean) :
    Unmarked u.text ↔ u.query = none ∧ u.fragment = none := by
  constructor
  · refine fun unmarked => Decidable.byContradiction fun more => ?_
    obtain ⟨mark, rest, ends, whole⟩ := exists_mark more
    have clear := unmarked mark (by simp [whole])
    rw [ends] at clear
    contradiction
  · rintro ⟨query, fragment⟩
    rw [text_eq, query, fragment]
    simpa using clean.unmarked_front

end TokenSteward.Url
