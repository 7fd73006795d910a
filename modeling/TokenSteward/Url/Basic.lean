import TokenSteward.Url.Host

/-! # URLs

A URL is a scheme, an authority for the schemes that name a host, a path, and a query and a
fragment if they are written. The text of a URL puts the parts behind one another with the marks
that separate them.
-/

namespace TokenSteward.Url

open TokenSteward.Number

/-- Who is asked under a URL: user information, host and port. -/
structure Authority where
  user : List Char
  password : List Char
  host : Option Host
  port : Option Nat
deriving DecidableEq, Repr

/-- A path: segments behind slashes, or a text that names nothing by parts. -/
inductive Path where
  | segments (all : List (List Char))
  | opaqueText (text : List Char)
deriving DecidableEq, Repr

/-- The text of an authority behind its two slashes. -/
def Authority.text (a : Authority) : List Char :=
  let credentials :=
    if a.user.isEmpty && a.password.isEmpty then []
    else a.user ++ (if a.password.isEmpty then [] else ':' :: a.password) ++ ['@']
  credentials ++ (a.host.map Host.text).getD [] ++
    (a.port.map fun n => ':' :: digits n).getD []

/-- The text of a path. -/
def Path.text : Path → List Char
  | .segments all => all.flatMap ('/' :: ·)
  | .opaqueText s => s

end TokenSteward.Url

namespace TokenSteward

/-- A URL, each part in its written form. -/
structure Url where
  scheme : List Char
  authority : Option Url.Authority
  path : Url.Path
  query : Option (List Char)
  fragment : Option (List Char)
deriving DecidableEq, Repr

namespace Url

/-- The text of a URL. Without an authority a path must not look as if it began with one. -/
def text (u : Url) : List Char :=
  let front := match u.authority with
    | some a => '/' :: '/' :: a.text
    | none =>
      match u.path with
      | .segments ([] :: _ :: _) => ['/', '.']
      | _ => []
  u.scheme ++ ':' :: front ++ u.path.text ++ (u.query.map ('?' :: ·)).getD [] ++
    (u.fragment.map ('#' :: ·)).getD []

/-- The text of a URL, as a string. -/
def render (u : Url) : String := String.ofList u.text

/-- Whether other URLs can be given relative to a URL. -/
def isBase (u : Url) : Bool :=
  u.authority.isSome || match u.path with
    | .segments (_ :: _) => true
    | _ => false

end Url

end TokenSteward
