/-
**URLs.**

A URL has a scheme, perhaps an authority, a path, and perhaps a query and a fragment.  The path is
a list of segments, or, for schemes such as `data` and `mailto`, one piece of text without
segments.

Main definitions:

* `ChapterAssembly.Url` — a URL, written by `Url.text`;
* `Url.isSpecial`, `Url.defaultPort?` — the schemes with rules of their own;
* `Url.hostText?`, `Url.pathText` — the host and the path as text.
-/

import ChapterAssembly.Url.Host

set_option relaxedAutoImplicit false
set_option autoImplicit false

namespace ChapterAssembly

/-- Who and where: the part of a URL after the double slash. -/
structure Authority where
  username : Text := []
  password : Option Text := none
  host : Host
  port : Option Nat := none
deriving Repr, DecidableEq, BEq

/-- The path of a URL. -/
inductive UrlPath where
  /-- Segments, each after a slash. -/
  | segments (ss : List Text)
  /-- A text without structure: the URL cannot be the base of a relative one. -/
  | rootless (t : Text)
deriving Repr, DecidableEq, BEq

/-- A URL. -/
structure Url where
  scheme : Text
  authority : Option Authority := none
  path : UrlPath
  query : Option Text := none
  fragment : Option Text := none
deriving Repr, DecidableEq, BEq

namespace Url

/-! ### Schemes -/

/-- The port that a scheme has when none is written. -/
def defaultPort? (scheme : Text) : Option Nat :=
  if scheme = "http" ∨ scheme = "ws" then some 80
  else if scheme = "https" ∨ scheme = "wss" then some 443
  else if scheme = "ftp" then some 21
  else none

def isFile (scheme : Text) : Bool := scheme == "file".toList

/-- The schemes whose URLs always have an authority and a path with segments. -/
def isSpecial (scheme : Text) : Bool := isFile scheme || (defaultPort? scheme).isSome

/-! ### Writing -/

/-- Segments as text, each after a slash. -/
def segmentsText (ss : List Text) : Text := ss.flatMap ('/' :: ·)

/-- The path as text. -/
def pathText (u : Url) : Text :=
  match u.path with
  | .segments ss => segmentsText ss
  | .rootless t => t

/-- The authority as text. -/
def authorityText (a : Authority) : Text :=
  let password := match a.password with
    | some p => ':' :: p
    | none => []
  let user := a.username ++ password
  (if user.isEmpty then [] else user ++ ['@']) ++ a.host.text ++
    (match a.port with
      | some n => ':' :: Text.ofNat n
      | none => [])

/-- What stands between the scheme and the path.  Without an authority a path that starts with an
empty segment needs a dot in front, lest it be read as an authority. -/
def beforePath (u : Url) : Text :=
  match u.authority, u.path with
  | some a, _ => "//" ++ authorityText a
  | none, .segments ([] :: _ :: _) => "/."
  | none, _ => []

/-- The URL as text. -/
def text (u : Url) : Text :=
  u.scheme ++ [':'] ++ u.beforePath ++ u.pathText ++
    (match u.query with
      | some q => '?' :: q
      | none => []) ++
    (match u.fragment with
      | some f => '#' :: f
      | none => [])

/-- The host as text, if the URL has one. -/
def hostText? (u : Url) : Option Text :=
  match u.authority with
  | some ⟨_, _, .domain [], _⟩ => none
  | some a => some a.host.text
  | none => none

/-- Relative references can be resolved against the URL. -/
def canBeBase (u : Url) : Bool :=
  match u.path with
  | .segments _ => true
  | .rootless _ => false

/-- The URL that stands in when a page has no usable one. -/
def blank : Url := { scheme := "about", path := .rootless "blank" }

end Url

end ChapterAssembly
