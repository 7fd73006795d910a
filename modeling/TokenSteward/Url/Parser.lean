import TokenSteward.Url.Basic
import TokenSteward.Text.Quoted
import TokenSteward.Json.Reader

/-! # Reading a URL

The text is read part by part: each step takes a part off the front and leaves the rest. Schemes of
the web have rules of their own, by which a missing slash is mended and a backslash is a slash;
files have no port and may have no host.
-/

namespace TokenSteward.Url

open TokenSteward.Number TokenSteward.Text

/-- How a scheme is read. -/
inductive SchemeClass where
  | web (defaultPort : Nat)
  | file
  | other
deriving DecidableEq, Repr

/-- The class of a scheme. -/
def schemeClass (scheme : List Char) : SchemeClass :=
  if scheme = "http".toList ∨ scheme = "ws".toList then .web 80
  else if scheme = "https".toList ∨ scheme = "wss".toList then .web 443
  else if scheme = "ftp".toList then .web 21
  else if scheme = "file".toList then .file
  else .other

/-- Whether a scheme has rules of its own. -/
def SchemeClass.isSpecial : SchemeClass → Bool
  | .other => false
  | _ => true

/-- A line break, which counts nothing in a URL. -/
def isBreak (c : Char) : Bool := c == '\t' || c == '\n' || c == '\r'

/-- A text without line breaks. -/
def joinedLines (s : List Char) : List Char := s.filter (!isBreak ·)

/-- Whether a character is an ASCII letter. -/
def isLetter (c : Char) : Bool := ('a' ≤ c && c ≤ 'z') || ('A' ≤ c && c ≤ 'Z')

/-- A character as a part of a scheme, which has small letters only. -/
def schemeChar? (c : Char) : Option Char :=
  if 'A' ≤ c ∧ c ≤ 'Z' then some (Char.ofNat (c.toNat + 32))
  else if ('a' ≤ c ∧ c ≤ 'z') ∨ isDigit c ∨ c = '+' ∨ c = '-' ∨ c = '.' then some c
  else none

/-- A scheme up to its colon, and what follows it. -/
def schemeRest? : List Char → Option (List Char × List Char)
  | [] => none
  | ':' :: rest => some ([], rest)
  | c :: rest =>
    if isBreak c then schemeRest? rest
    else do
      let small ← schemeChar? c
      let (more, rest) ← schemeRest? rest
      some (small :: more, rest)

/-- The scheme of a text, and what follows its colon. -/
def scheme? : List Char → Option (List Char × List Char)
  | [] => none
  | c :: rest => if isLetter c then schemeRest? (c :: rest) else none

/-- Whether a character is a slash under a class of schemes. -/
def isSlash (k : SchemeClass) (c : Char) : Bool := c == '/' || (k.isSpecial && c == '\\')

/-- Whether a character ends an authority. -/
def endsAuthority (k : SchemeClass) (c : Char) : Bool := isSlash k c || c == '?' || c == '#'

/-- The user information of an authority, its host and port still together, and the rest. -/
structure RawAuthority where
  credentials : Option (List Char)
  place : List Char
  rest : List Char

/-- The authority at the front of a text. The last `@` ends the user information. -/
def rawAuthority (k : SchemeClass) (s : List Char) : RawAuthority :=
  let whole := s.takeWhile (!endsAuthority k ·)
  let rest := s.drop whole.length
  if whole.contains '@' then
    let place := (whole.reverse.takeWhile (· != '@')).reverse
    ⟨some (whole.take (whole.length - place.length - 1)), place, rest⟩
  else ⟨none, whole, rest⟩

/-- The host of a place up to the colon before its port; a colon in brackets belongs to the host. -/
def hostPart : Bool → List Char → List Char
  | _, [] => []
  | within, c :: s =>
    if c = ':' ∧ !within then []
    else c :: hostPart (if c = '[' then true else if c = ']' then false else within) s

/-- The port that digits name, if it is not the default one of the scheme. -/
def port (k : SchemeClass) (ds : List Char) : Except UrlFault (Option Nat) :=
  if !ds.all isDigit then .error .port
  else if 65535 < ofDigits ds then .error .port
  else if ds.isEmpty || k = .web (ofDigits ds) then .ok none
  else .ok (some (ofDigits ds))

/-- The digits of a port, and what stands between them and the end of the authority. -/
def portPart (k : SchemeClass) (s : List Char) : List Char × List Char :=
  -- A backslash ends a port under every scheme.
  if k.isSpecial then (s, []) else (s.takeWhile (· != '\\'), s.dropWhile (· != '\\'))

/-- The user name and the password of user information. -/
def credentials (s : List Char) : List Char × List Char :=
  let user := s.takeWhile (· != ':')
  (percentEncode userEscapes user, percentEncode userEscapes (s.drop (user.length + 1)))

/-- Reads the authority behind two slashes, and leaves the path. -/
def readAuthority (k : SchemeClass) (s : List Char) : Except UrlFault (Authority × List Char) := do
  let raw := rawAuthority k s
  if raw.credentials = some [] ∧ raw.place = [] ∧ raw.rest ≠ [] then .error .emptyHost
  else
    let (user, password) := credentials (raw.credentials.getD [])
    let name := hostPart false raw.place
    let behind := raw.place.drop name.length
    let host ← if k.isSpecial then
        if name.isEmpty then .error .emptyHost else (Host.ofText name).map some
      else do
        let host ← Host.ofOpaqueText name
        .ok (if host = .name [] then none else some host)
    if host = none ∧ (!behind.isEmpty ∨ !user.isEmpty ∨ !password.isEmpty) then .error .emptyHost
    else
      let (ds, more) := portPart k (behind.drop 1)
      let port ← port k ds
      .ok (⟨user, password, host, port⟩, more ++ raw.rest)

/-! ## Paths -/

/-- A segment that stays where it is. -/
def isDot (s : List Char) : Bool :=
  ["." , "%2e", "%2E"].any (·.toList == s)

/-- A segment that goes back by one. -/
def isDoubleDot (s : List Char) : Bool :=
  ["..", "%2e%2e", "%2e%2E", "%2E%2e", "%2E%2E", "%2e.", "%2E.", ".%2e", ".%2E"].any
    (·.toList == s)

/-- Whether a segment names a drive. -/
def isDrive : List Char → Bool
  | [c, mark] => isLetter c && (mark == ':' || mark == '|')
  | _ => false

/-- Whether no way leads back from a segment: it names a drive, up to a backslash if it has one. -/
def isFixed (segment : List Char) : Bool :=
  isDrive segment || (isDrive (segment.take 2) && (segment.drop 2).head? == some '\\')

/-- The parts of a text between slashes. -/
def pieces (k : SchemeClass) : List Char → List (List Char)
  | [] => [[]]
  | c :: rest =>
    if isSlash k c then [] :: pieces k rest
    else match pieces k rest with
      | [] => [[c]]
      | first :: more => (c :: first) :: more

/-- What has been read of a path: its segments, and whether a drive was put at its beginning. -/
structure Walked where
  segments : List (List Char)
  onDrive : Bool
deriving DecidableEq, Repr

namespace Walked

/-- The path with another segment. -/
def add (w : Walked) (segment : List Char) : Walked :=
  { w with segments := w.segments ++ [segment] }

/-- The path without its last segment, if a way leads back from it. -/
def back (w : Walked) : Walked :=
  match w.segments.getLast? with
  | some segment => if isFixed segment then w else { w with segments := w.segments.dropLast }
  | none => w

/-- The drive that a line break cuts off at the front of a text, and the text behind it. -/
def brokenDrive? : List Char → Option (List Char × List Char)
  | c :: s =>
    if isBreak c then brokenDrive? s
    else match s.dropWhile isBreak with
      | ':' :: mark :: rest =>
        let rest := joinedLines rest
        if isLetter c && isBreak mark && !rest.isEmpty then some ([c, ':'], rest) else none
      | _ => none
  | [] => none

/-- The path after one more piece of its text. At the beginning of a file's path a drive is written
with a colon, and a line break behind it stands for a slash. -/
def step (k : SchemeClass) (w : Walked) (isLast : Bool) (piece : List Char) : Walked :=
  let segment := percentEncode pathEscapes (joinedLines piece)
  let isFront := k == .file && w.segments.isEmpty
  match if isFront then brokenDrive? piece else none with
  | some (drive, rest) => (w.add drive).add (percentEncode pathEscapes rest)
  | none =>
    if isDoubleDot segment then if isLast then w.back.add [] else w.back
    else if isDot segment then if isLast then w.add [] else w
    else match segment with
      | [c, mark] =>
        if isFront && isDrive [c, mark] then ⟨[[c, ':']], true⟩ else w.add [c, mark]
      | _ => w.add segment

/-- The path after all pieces of its text. -/
def along (k : SchemeClass) (w : Walked) : List (List Char) → Walked
  | [] => w
  | piece :: rest => along k (w.step k rest.isEmpty piece) rest

/-- The path that a text behind its first slash names. -/
def ofText (k : SchemeClass) (s : List Char) : Walked := along k ⟨[], false⟩ (pieces k s)

end Walked

/-- A text without a slash at its front. -/
def withoutSlash (k : SchemeClass) : List Char → List Char
  | [] => []
  | c :: s => if isSlash k c then s else c :: s

/-- The segments of a path; a file's path does not begin with empty ones. -/
def properSegments (k : SchemeClass) (segments : List (List Char)) : List (List Char) :=
  if k == .file then
    match segments.dropWhile (·.isEmpty) with
    | [] => [[]]
    | all => all
  else segments

/-- Whether a character ends a path. -/
def endsPath (c : Char) : Bool := c == '?' || c == '#'

/-- The query and the fragment of a text that starts with the mark of one of them. -/
def tail (k : SchemeClass) (s : List Char) : Option (List Char) × Option (List Char) :=
  let fragment (s : List Char) : Option (List Char) :=
    match s with
    | '#' :: s => some (percentEncode fragmentEscapes s)
    | _ => none
  match s with
  | '?' :: s =>
    let query := s.takeWhile (· != '#')
    let escapes := if k.isSpecial then specialQueryEscapes else queryEscapes
    (some (percentEncode escapes query), fragment (s.drop query.length))
  | s => (none, fragment s)

/-! ## Whole URLs -/

/-- The URL of a scheme, an authority, a path and what follows it. -/
def assemble (scheme : List Char) (k : SchemeClass) (a : Option Authority)
    (path : List (List Char)) (s : List Char) : Url :=
  let (query, fragment) := tail k (joinedLines s)
  ⟨scheme, a, .segments (properSegments k path), query, fragment⟩

/-- The path at the front of a text, and what follows it. -/
def pathFront (s : List Char) : List Char × List Char :=
  (s.takeWhile (!endsPath ·), s.dropWhile (!endsPath ·))

/-- The URL of a scheme other than that of files behind its authority. -/
def plainUrl (scheme : List Char) (k : SchemeClass) (a : Option Authority) (s : List Char) : Url :=
  let (front, rest) := pathFront s
  let path := if !k.isSpecial && front.isEmpty then []
    else (Walked.ofText k (withoutSlash k front)).segments
  assemble scheme k a path rest

/-- The URL of a file without a host; the path is the text behind the first slash. -/
def hostlessUrl (scheme s : List Char) : Url :=
  let (front, rest) := pathFront s
  assemble scheme .file (some ⟨[], [], none, none⟩) (Walked.ofText .file front).segments rest

/-- The URL of a file behind two slashes. A host is dropped if the path begins with a drive. -/
def hostedUrl (scheme s : List Char) : Except UrlFault Url := do
  let place := s.takeWhile (!endsAuthority .file ·)
  let name := joinedLines place
  if isDrive name then .ok (hostlessUrl scheme s)
  else if name.isEmpty then .ok (hostlessUrl scheme (s.drop place.length))
  else
    let host ← Host.ofText name
    if host = .name "localhost".toList then .ok (hostlessUrl scheme (s.drop place.length))
    else
      let (front, rest) := pathFront (s.drop place.length)
      let walked := Walked.ofText .file (withoutSlash .file front)
      let host := if walked.onDrive then none else some host
      .ok (assemble scheme .file (some ⟨[], [], host, none⟩) walked.segments rest)

/-- The URL of a file behind the colon. -/
def fileUrl (scheme s : List Char) : Except UrlFault Url :=
  match s.dropWhile isBreak with
  | c :: s =>
    if isSlash .file c then
      match s.dropWhile isBreak with
      | d :: rest =>
        if isSlash .file d then hostedUrl scheme rest else .ok (hostlessUrl scheme (d :: rest))
      | [] => .ok (hostlessUrl scheme [])
    else .ok (hostlessUrl scheme (c :: s))
  | [] => .ok (hostlessUrl scheme [])

/-- The URL of a scheme without rules behind the colon. -/
def otherUrl (scheme s : List Char) : Except UrlFault Url :=
  match s with
  | '/' :: '/' :: rest => do
    let (a, rest) ← readAuthority .other rest
    .ok (plainUrl scheme .other (some a) rest)
  | '/' :: _ => .ok (plainUrl scheme .other none s)
  | s =>
    let (front, rest) := pathFront s
    let (query, fragment) := tail .other rest
    .ok ⟨scheme, none, .opaqueText (percentEncode controlEscapes front), query, fragment⟩

/-- Reads a URL. Blanks and control characters around it and line breaks in it count nothing, but
for a line break behind the drive of a file. -/
def parse (s : String) : Except UrlFault Url :=
  match scheme? (trimBoth (·.toNat ≤ 0x20) s.toList) with
  | none => .error .relative
  | some (scheme, rest) =>
    match schemeClass scheme with
    | .file => fileUrl scheme rest
    | .other => otherUrl scheme (joinedLines rest)
    | .web p => do
      let k := SchemeClass.web p
      let (a, rest) ← readAuthority k ((joinedLines rest).dropWhile (isSlash k))
      .ok (plainUrl scheme k (some a) rest)

/-- Reads a URL from the written form of its text. -/
def reader : Json.Reader Url :=
  (Json.Reader.text "a string representing an URL").refine fun s =>
    match Url.parse s with
    | .ok u => .ok u
    | .error fault => .error (fault.message ++ ": " ++ quoted s)

end TokenSteward.Url
