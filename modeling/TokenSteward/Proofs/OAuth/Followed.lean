import TokenSteward.Proofs.Delay.Admitted
import TokenSteward.Proofs.OAuth.Separation
import TokenSteward.Proofs.Url.Marks

/-! # Links that are followed

Who follows a link asks for the page before its first mark and hands over the query behind the question
mark; a fragment is kept back. Behind the base of a link come the type, one question mark and the signed
contents, and no other mark. So a link brings its contents to the page of the type if its base has no
marks. A base with a query or a fragment is admitted as well, but then the first mark of the link is one
of the base's: the link leads to the page of the base, and the type is part of that query or fragment.
-/

namespace TokenSteward

namespace Url

open TokenSteward.Text

theorem unmarked_trimEnd_iff {s : List Char} : Unmarked (trimEnd '/' s) ↔ Unmarked s := by
  obtain ⟨slashes, whole, all⟩ := exists_trimEnd_append '/' s
  have clear : Unmarked slashes := fun c here => all c here ▸ by decide
  conv_rhs => rw [whole]
  simp [clear]

/-- A text in which nothing is written by number stands for its own bytes. -/
theorem percentDecode_of_not_mem {s : List Char} (plain : '%' ∉ s) : percentDecode s = Utf8.encode s := by
  fun_induction percentDecode s with
  | case1 => rfl
  | case2 => rfl
  | case3 => rfl
  | case4 => simp at plain
  | case5 => simp at plain
  | case6 c rest _ _ _ ih =>
    rw [List.mem_cons, not_or] at plain
    simp [ih plain.2, Utf8.encode]

end Url

namespace OAuth

open TokenSteward.Text TokenSteward.Url

/-! ## Following a link -/

/-- What is asked for when a link is followed. -/
structure Visit where
  page : List Char
  query : Option (List Char)
deriving DecidableEq, Repr

namespace Visit

/-- The visit that a link leads to. -/
def ofLink (link : List Char) : Visit :=
  ⟨link.takeWhile (!endsPath ·), match link.dropWhile (!endsPath ·) with
    | '?' :: rest => some (rest.takeWhile (· != '#'))
    | _ => none⟩

/-- The bytes that a part of a query stands for, in which a plus sign is a blank. -/
def bytes (part : List Char) : List UInt8 := percentDecode (part.map fun c => if c = '+' then ' ' else c)

/-- The name and the value of a parameter. -/
def parameter (part : List Char) : List UInt8 × List UInt8 :=
  (bytes (part.takeWhile (· != '=')), bytes ((part.dropWhile (· != '=')).drop 1))

/-- The parameters that a visit hands over. -/
def parameters (v : Visit) : List (List UInt8 × List UInt8) :=
  ((parted '&' (v.query.getD [])).filter (!·.isEmpty)).map parameter

theorem ofLink_append_cons {front : List Char} {mark : Char} (unmarked : Unmarked front)
    (ends : endsPath mark = true) (rest : List Char) : (ofLink (front ++ mark :: rest)).page = front :=
  (parts_of_append_cons (by simpa [Unmarked] using unmarked) (by simp [ends]) rest).1

theorem ofLink_query {page query : List Char} (unmarked : Unmarked page) (whole : '#' ∉ query) :
    ofLink (page ++ '?' :: query) = ⟨page, some query⟩ := by
  obtain ⟨front, behind⟩ := parts_of_append_cons (p := (!endsPath ·)) (m := '?')
    (by simpa [Unmarked] using unmarked) (by decide) query
  have kept : query.takeWhile (· != '#') = query :=
    List.takeWhile_eq_self_iff.mpr fun c here => bne_iff_ne.mpr fun same => whole (same ▸ here)
  simp [ofLink, front, behind, kept]

theorem bytes_of_not_mem {part : List Char} (number : '%' ∉ part) (plus : '+' ∉ part) :
    bytes part = Utf8.encode part := by
  have same : (part.map fun c => if c = '+' then ' ' else c) = part :=
    (List.map_congr_left fun c here => if_neg (by rintro rfl; exact plus here)).trans (List.map_id part)
  rw [bytes, same, percentDecode_of_not_mem number]

/-- A query with one parameter hands over that one. -/
theorem parameters_single {name value : List Char} (page : List Char) (one : '&' ∉ name ++ '=' :: value)
    (clear : '=' ∉ name) :
    parameters ⟨page, some (name ++ '=' :: value)⟩ = [(bytes name, bytes value)] := by
  have before : ∀ c ∈ name, (c != '=') = true := fun c here =>
    bne_iff_ne.mpr fun same => clear (same ▸ here)
  obtain ⟨front, behind⟩ := parts_of_append_cons (m := '=') before (by decide) value
  have filled : (name ++ '=' :: value).isEmpty = false := by simp
  simp only [parameters, Option.getD_some, parted_of_not_mem one, filled, Bool.not_false,
    List.filter_cons_of_pos, List.filter_nil, List.map_cons, List.map_nil, parameter, front, behind]
  rfl

end Visit

/-! ## Signed contents -/

/-- Signed contents have no characters but symbols of the alphabet for URLs and a point. -/
theorem SigningKey.not_mem_sign {c : Char} (foreign : ∀ n < 64, c ≠ Base64.urlSafe.symbol n)
    (point : c ≠ '.') (k : SigningKey) (v : Json.Value) : c ∉ k.sign v := by
  simp only [sign, signature, List.mem_append, List.mem_cons, not_or]
  exact ⟨Base64.not_mem_encode rfl foreign _, point, Base64.not_mem_encode rfl foreign _⟩

namespace LinkBuilder

variable {b : LinkBuilder} {t : LinkState}

/-- The page of a type under a base. -/
def page (b : LinkBuilder) (t : LinkState) : List Char :=
  b.base ++ '/' :: t.providerType.name.toList ++ "/authenticate".toList

/-- The only parameter of a link. -/
def parameter (b : LinkBuilder) (t : LinkState) : List Char := "state".toList ++ '=' :: b.key.sign t.toValue

theorem link_eq (b : LinkBuilder) (t : LinkState) : b.link t = b.page t ++ '?' :: b.parameter t := by
  have mark : marker = "/authenticate".toList ++ '?' :: ("state".toList ++ ['=']) := by decide +kernel
  simp [link, page, parameter, mark]

/-- A link is usable if it has no fragment, its first question mark introduces the signed contents, and
what stands before that is a page of the type. -/
structure IsUsable (b : LinkBuilder) (t : LinkState) : Prop where
  whole : '#' ∉ b.link t
  first : ∃ page, '?' ∉ page ∧ b.link t = page ++ "?state=".toList ++ b.key.sign t.toValue ∧
    '/' :: t.providerType.name.toList ++ "/authenticate".toList <:+ page

/-- Neither of the marks is in the only parameter of a link. -/
theorem unmarked_parameter (b : LinkBuilder) (t : LinkState) : Unmarked (b.parameter t) := by
  have name : Unmarked ("state".toList ++ ['=']) := by decide +kernel
  have query := SigningKey.not_mem_sign (c := '?') (by decide) (by decide) b.key t.toValue
  have fragment := SigningKey.not_mem_sign (c := '#') (by decide) (by decide) b.key t.toValue
  have whole : b.parameter t = ("state".toList ++ ['=']) ++ b.key.sign t.toValue := by simp [parameter]
  rw [whole, Unmarked.append_iff]
  exact ⟨name, Unmarked.iff_not_mem.mpr ⟨query, fragment⟩⟩

theorem unmarked_page_iff : Unmarked (b.page t) ↔ Unmarked b.base := by
  have slash : endsPath '/' = false := by decide
  have behind : Unmarked "/authenticate".toList := by decide +kernel
  have type : Unmarked t.providerType.name.toList := fun c here =>
    endsPath_eq_false (by decide) (by decide) (List.all_eq_true.mp t.providerType.all_isTypeCharacter c here)
  simp only [page, Unmarked.append_iff, Unmarked.cons_iff, slash, behind, type, and_true]

/-- A link is usable if and only if no mark stands in the base. -/
theorem isUsable_iff : b.IsUsable t ↔ Unmarked b.base := by
  obtain ⟨query, fragment⟩ := Unmarked.iff_not_mem.mp (b.unmarked_parameter t)
  have introduced : "?state=".toList ++ b.key.sign t.toValue = '?' :: b.parameter t := by
    simp [parameter]
  rw [← unmarked_page_iff (t := t), Unmarked.iff_not_mem]
  constructor
  · rintro ⟨whole, page, clear, same, -⟩
    rw [link_eq] at whole same
    rw [List.append_assoc, introduced] at same
    obtain ⟨rfl, -⟩ := eq_of_last_mark query query same
    exact ⟨clear, fun here => whole (List.mem_append_left _ here)⟩
  · rintro ⟨clear, whole⟩
    refine ⟨?_, b.page t, clear, ?_, ⟨b.base, by simp [page]⟩⟩
    · rw [link_eq, List.mem_append, List.mem_cons, not_or, not_or]
      exact ⟨whole, by decide, fragment⟩
    · rw [List.append_assoc, introduced, link_eq]

instance : Decidable (b.IsUsable t) := decidable_of_iff _ isUsable_iff.symm

/-- Who follows a link under a base without marks hands over the signed contents, and nothing else, to
the page of the type. -/
theorem visit_of_unmarked (unmarked : Unmarked b.base) (t : LinkState) :
    (Visit.ofLink (b.link t)).page = b.page t ∧ (Visit.ofLink (b.link t)).parameters =
      [(Utf8.encode "state".toList, Utf8.encode (b.key.sign t.toValue))] := by
  have foreign {c : Char} (other : ∀ n < 64, c ≠ Base64.urlSafe.symbol n) (point : c ≠ '.') :
      c ∉ b.key.sign t.toValue := SigningKey.not_mem_sign other point b.key t.toValue
  have visit := Visit.ofLink_query (unmarked_page_iff (t := t).mpr unmarked)
    (Unmarked.iff_not_mem.mp (b.unmarked_parameter t)).2
  have one : '&' ∉ "state".toList ++ '=' :: b.key.sign t.toValue := by
    simp [foreign (c := '&') (by decide) (by decide)]
  have name : Visit.bytes "state".toList = Utf8.encode "state".toList := by decide +kernel
  have value : Visit.bytes (b.key.sign t.toValue) = Utf8.encode (b.key.sign t.toValue) :=
    Visit.bytes_of_not_mem (foreign (by decide) (by decide)) (foreign (by decide) (by decide))
  rw [link_eq, visit, ← name, ← value]
  exact ⟨rfl, Visit.parameters_single _ one (by decide +kernel)⟩

end LinkBuilder

end OAuth

namespace Settings

open TokenSteward.OAuth TokenSteward.Text TokenSteward.Url

variable {s : Settings} {l : LinkSettings} {text : String}

/-- Admitted settings with a base that was read make usable links if and only if the base has neither a
query nor a fragment. A usable link brings its contents to the page of the type; any other leads to the
page of the base itself. -/
theorem usable_iff_of_validate (admitted : s.validate = .ok ()) (links : s.links = some l)
    (read : Url.parse text = .ok l.baseUrl) : ∃ b, s.linkBuilder? = .ok (some b) ∧
      b.base = trimEnd '/' l.baseUrl.text ∧ ∀ t : LinkState,
        (b.IsUsable t ↔ l.baseUrl.query = none ∧ l.baseUrl.fragment = none) ∧
        (b.IsUsable t → (Visit.ofLink (b.link t)).page = b.page t ∧
          (Visit.ofLink (b.link t)).parameters =
            [(Utf8.encode "state".toList, Utf8.encode (b.key.sign t.toValue))]) ∧
        (¬b.IsUsable t → (Visit.ofLink (b.link t)).page = l.baseUrl.front) := by
  obtain ⟨key, made⟩ := linkBuilder?_of_links admitted links
  have clean := clean_of_parse read
  have bare : Unmarked (trimEnd '/' l.baseUrl.text) ↔ l.baseUrl.query = none ∧ l.baseUrl.fragment = none :=
    unmarked_trimEnd_iff.trans clean.unmarked_text_iff
  refine ⟨_, made, rfl, fun t => ?_⟩
  rw [LinkBuilder.isUsable_iff, LinkBuilder.ofUrl, bare]
  refine ⟨Iff.rfl, fun none => LinkBuilder.visit_of_unmarked (bare.mpr none) t, fun more => ?_⟩
  -- The mark is no slash, so what is trimmed off the base stands behind it.
  obtain ⟨mark, rest, ends, whole⟩ := exists_mark more
  have other : mark ≠ '/' := by
    rintro rfl
    exact absurd ends (by decide)
  obtain ⟨rest', trimmed⟩ := exists_trimEnd_cons other l.baseUrl.front rest
  simp only [LinkBuilder.link, whole, trimmed, List.append_assoc, List.cons_append]
  exact Visit.ofLink_append_cons clean.unmarked_front ends _

/-- Settings under which links are made. -/
def linked (base : Url) : Settings :=
  standard.withLinks base "MDEyMzQ1Njc4OWFiY2RlZjAxMjM0NTY3ODlhYmNkZWY="

/-- A page, with a query or without one. -/
def loginUrl (query : Option String) : Url :=
  ⟨"https".toList, some ⟨[], [], some (.name "o.example".toList), none⟩, .segments ["login".toList],
    query.map String.toList, none⟩

/-- Under a page links bring their contents to the page of the type; under the same page with a query they
lead to the page alone. -/
theorem usable_iff_of_validate_login :
    (linked (loginUrl none)).validate = .ok () ∧
      Url.parse "https://o.example/login" = .ok (loginUrl none) ∧
      (∃ b, (linked (loginUrl none)).linkBuilder? = .ok (some b) ∧
        (Visit.ofLink (b.link LinkBuilder.quotedState)).parameters = [(Utf8.encode "state".toList,
          Utf8.encode (b.key.sign LinkBuilder.quotedState.toValue))]) ∧
      (linked (loginUrl (some "tenant=1"))).validate = .ok () ∧
      Url.parse "https://o.example/login?tenant=1" = .ok (loginUrl (some "tenant=1")) ∧
      ∃ b, (linked (loginUrl (some "tenant=1"))).linkBuilder? = .ok (some b) ∧
        (Visit.ofLink (b.link LinkBuilder.quotedState)).page = (loginUrl none).text := by
  have admitted : (linked (loginUrl none)).validate = .ok () := by decide +kernel
  have read : Url.parse "https://o.example/login" = .ok (loginUrl none) := by decide +kernel
  have admitted' : (linked (loginUrl (some "tenant=1"))).validate = .ok () := by decide +kernel
  have read' : Url.parse "https://o.example/login?tenant=1" = .ok (loginUrl (some "tenant=1")) := by
    decide +kernel
  obtain ⟨b, made, -, usable⟩ := usable_iff_of_validate admitted rfl read
  obtain ⟨b', made', -, usable'⟩ := usable_iff_of_validate admitted' rfl read'
  obtain ⟨same, delivers, -⟩ := usable LinkBuilder.quotedState
  obtain ⟨same', -, strays⟩ := usable' LinkBuilder.quotedState
  refine ⟨admitted, read, ⟨b, made, (delivers (same.mpr ⟨rfl, rfl⟩)).2⟩, admitted', read', b', made', ?_⟩
  exact strays fun usable => by simpa [loginUrl, linked] using (same'.mp usable).1

/-- Settings are admitted under which a link is of no use. -/
theorem exists_unusable : ∃ b : LinkBuilder,
    (linked (loginUrl (some "tenant=1"))).validate = .ok () ∧
      Url.parse "https://o.example/login?tenant=1" = .ok (loginUrl (some "tenant=1")) ∧
      (linked (loginUrl (some "tenant=1"))).linkBuilder? = .ok (some b) ∧
      ¬b.IsUsable LinkBuilder.quotedState ∧
      (Visit.ofLink (b.link LinkBuilder.quotedState)).page = "https://o.example/login".toList := by
  refine ⟨⟨"https://o.example/login?tenant=1".toList,
    ⟨Utf8.encode "0123456789abcdef0123456789abcdef".toList, by decide +kernel⟩⟩, ?_⟩
  decide +kernel

end Settings

end TokenSteward
