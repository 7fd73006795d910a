import TokenSteward.Number.Digits
import TokenSteward.Url.Domain
import TokenSteward.Url.Percent

/-! # Hosts

A host is a domain name, an address of four bytes, an address of eight pieces, or, for schemes
without rules of their own, a text that is passed on.
-/

namespace TokenSteward.Url

open TokenSteward.Number TokenSteward.Text

/-- Why a text is not a URL. -/
inductive UrlFault where
  | relative
  | emptyHost
  | domain
  | port
  | address4
  | address6
  | hostCharacter
deriving DecidableEq, Repr

/-- The wording of a fault. -/
def UrlFault.message : UrlFault → String
  | .relative => "relative URL without a base"
  | .emptyHost => "empty host"
  | .domain => "invalid international domain name"
  | .port => "invalid port number"
  | .address4 => "invalid IPv4 address"
  | .address6 => "invalid IPv6 address"
  | .hostCharacter => "invalid domain character"

/-- A host. -/
inductive Host where
  | name (text : List Char)
  | four (address : Nat)
  | six (pieces : List Nat)
deriving DecidableEq, Repr

/-! ## Addresses of four bytes -/

/-- The value of digits in a base. -/
def inBase (base : Nat) (ds : List Char) : Nat :=
  ds.foldl (fun n c => n * base + (hexDigit? c).getD 0) 0

/-- A number in base sixteen, eight or ten, as its beginning says. -/
def addressNumber? : List Char → Option Nat
  | [] => none
  | '0' :: 'x' :: ds | '0' :: 'X' :: ds =>
    if ds.all fun c => (hexDigit? c).isSome then some (inBase 16 ds) else none
  | '0' :: d :: ds =>
    if (d :: ds).all fun c => '0' ≤ c && c ≤ '7' then some (inBase 8 (d :: ds)) else none
  | ds => if ds.all isDigit then some (inBase 10 ds) else none

/-- The labels of a domain without an empty last one. -/
def properLabels (s : List Char) : List (List Char) :=
  let all := parted '.' s
  if 1 < all.length ∧ all.getLast? = some [] then all.dropLast else all

/-- Whether a domain has to be an address, for its last label is a number. -/
def endsInNumber (s : List Char) : Bool :=
  match (properLabels s).getLast? with
  | none | some [] => false
  | some last => last.all isDigit || (addressNumber? last).isSome

/-- The address of its numbers: all but the last are one byte each, the last fills the rest. -/
def address4? (s : List Char) : Option Nat := do
  let numbers ← (properLabels s).mapM addressNumber?
  let last ← numbers.getLast?
  let front := numbers.dropLast
  if 3 < front.length ∨ Nat.pow 256 (4 - front.length) ≤ last ∨ front.any (255 < ·) then none
  else
    let high := front.foldl (fun n b => n * 256 + b) 0
    some (high * Nat.pow 256 (4 - front.length) + last)

/-! ## Addresses of eight pieces -/

/-- The pieces that have been read, and how many of them stood before the gap. -/
structure Pieces where
  read : List Nat
  gap : Option Nat
deriving DecidableEq, Repr

/-- Four decimal bytes at the end of an address, without leading zeros. -/
def fourBytes? (s : List Char) : Option (List Nat) := do
  let parts := parted '.' s
  if parts.length ≠ 4 then none
  else parts.mapM fun ds =>
    if ds.isEmpty || !ds.all isDigit || (1 < ds.length && ds.head? == some '0') || 3 < ds.length
    then none
    else if 255 < ofDigits ds then none else some (ofDigits ds)

/-- Reads pieces of up to four digits between colons. -/
def readPieces : Nat → Pieces → List Char → Option Pieces
  | _, p, [] => some p
  | 0, _, _ :: _ => none
  | fuel + 1, p, c :: s =>
    if 8 ≤ p.read.length + (if p.gap.isSome then 1 else 0) then none
    else if c = ':' then
      if p.gap.isSome then none else readPieces fuel { p with gap := some p.read.length } s
    else
      let ds := ((c :: s).take 4).takeWhile fun c => (hexDigit? c).isSome
      match (c :: s).drop ds.length with
      | [] => some { p with read := p.read ++ [inBase 16 ds] }
      | ':' :: rest =>
        if rest.isEmpty then none
        else readPieces fuel { p with read := p.read ++ [inBase 16 ds] } rest
      | '.' :: _ =>
        if ds.isEmpty || 6 < p.read.length + (if p.gap.isSome then 1 else 0) then none
        else match fourBytes? (c :: s) with
          | some [a, b, c, d] => some { p with read := p.read ++ [a * 256 + b, c * 256 + d] }
          | _ => none
      | _ => none

/-- All eight pieces, with zeros in the place of the gap. -/
def Pieces.all? (p : Pieces) : Option (List Nat) :=
  match p.gap with
  | none => if p.read.length = 8 then some p.read else none
  | some before =>
    if 8 < p.read.length then none
    else some (p.read.take before ++ List.replicate (8 - p.read.length) 0 ++ p.read.drop before)

/-- The pieces of an address. -/
def address6? (s : List Char) : Option (List Nat) :=
  match s with
  | ':' :: ':' :: rest => readPieces (rest.length + 1) ⟨[], some 0⟩ rest >>= Pieces.all?
  | ':' :: _ => none
  | [] | [_] => none
  | s => readPieces (s.length + 1) ⟨[], none⟩ s >>= Pieces.all?

/-- The first longest run of zeros in a list of pieces: where it starts and how long it is. -/
def zeroRun : Nat → List Nat → Nat × Nat
  | _, [] => (0, 0)
  | start, n :: rest =>
    let later := zeroRun (start + 1) rest
    let here := ((n :: rest).takeWhile (· == 0)).length
    if later.2 ≤ here ∧ 0 < here then (start, here) else later

/-- Pieces in hexadecimal digits with colons between them. -/
def piecesText : List Nat → List Char
  | [] => []
  | [n] => Nat.toDigits 16 n
  | n :: m :: rest => Nat.toDigits 16 n ++ ':' :: piecesText (m :: rest)

/-- The text of an address of eight pieces. -/
def address6Text (pieces : List Nat) : List Char :=
  let (start, length) := zeroRun 0 pieces
  if length < 2 then piecesText pieces
  else piecesText (pieces.take start) ++ [':', ':'] ++ piecesText (pieces.drop (start + length))

/-! ## Any host -/

namespace Host

/-- The text of a host. -/
def text : Host → List Char
  | .name s => s
  | .four a => joinLabels
    [digits (a / 16777216), digits (a / 65536 % 256), digits (a / 256 % 256), digits (a % 256)]
  | .six pieces => '[' :: address6Text pieces ++ [']']

/-- The address in brackets, if a text has any. -/
def bracketed? : List Char → Option (Except UrlFault Host)
  | '[' :: s =>
    some <| if s.getLast? = some ']' then
      match address6? s.dropLast with
      | some pieces => .ok (.six pieces)
      | none => .error .address6
    else .error .address6
  | _ => none

/-- The host that a text names under a scheme with rules of its own. -/
def ofText (s : List Char) : Except UrlFault Host :=
  match bracketed? s with
  | some result => result
  | none =>
    match asciiDomain? (percentDecode s) with
    | none => .error .domain
    | some [] => .error .emptyHost
    | some domain =>
      if endsInNumber domain then
        match address4? domain with
        | some address => .ok (.four address)
        | none => .error .address4
      else .ok (.name domain)

/-- Characters that no host has under a scheme without rules. -/
def deniedHere : List Char :=
  ['\x00', '\t', '\n', '\r', ' ', '#', '/', ':', '<', '>', '?', '@', '[', '\\', ']', '^', '|']

/-- The host that a text names under a scheme without rules. -/
def ofOpaqueText (s : List Char) : Except UrlFault Host :=
  match bracketed? s with
  | some result => result
  | none =>
    if s.any deniedHere.contains then .error .hostCharacter
    else .ok (.name (percentEncode controlEscapes s))

end Host

end TokenSteward.Url
