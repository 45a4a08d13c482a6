/-
**Reading URLs and resolving references.**

A text is read as a URL on its own, or as a reference that starts from a base URL.  Reading never
looks at tabs and line breaks, nor at controls and spaces at the two ends.

Main definitions:

* `Url.resolve` — the URL of a reference, with or without a base;
* `Url.parse` — the URL of a text that needs no base;
* `Url.walk` — the segments of a path, with `.` and `..` carried out.
-/

import ChapterAssembly.Url.Basic

set_option relaxedAutoImplicit false
set_option autoImplicit false

namespace ChapterAssembly

namespace Url

/-! ### Cutting a text into parts -/

/-- The text that reading sees. -/
def significant (t : Text) : Text :=
  let atEnd := fun c : Char => decide (c.toNat ≤ 0x20)
  (((t.dropWhile atEnd).reverse.dropWhile atEnd).reverse).filter fun c =>
    c != '\t' && c != '\n' && c != '\r'

/-- A character that a scheme may hold after its first letter. -/
def isSchemeChar (c : Char) : Bool := c.isAlphanum || c == '+' || c == '-' || c == '.'

/-- The scheme in front of a text, in lower case, and what follows its colon. -/
def scheme? (t : Text) : Option (Text × Text) :=
  match t with
  | [] => none
  | c :: _ =>
    if c.isAlpha then
      match t.dropWhile isSchemeChar with
      | ':' :: rest => some (Text.asciiLower (t.takeWhile isSchemeChar), rest)
      | _ => none
    else none

/-- A text in three parts: before its query, its query, its fragment. -/
structure Parts where
  front : Text
  query : Option Text
  fragment : Option Text
deriving Repr

/-- What stands before the first `c`, and what follows it if there is one. -/
def cutAtChar (c : Char) (t : Text) : Text × Option Text :=
  match t.dropWhile (· != c) with
  | [] => (t, none)
  | _ :: r => (t.takeWhile (· != c), some r)

/-- The parts of a text, percent-encoded as their places demand. -/
def Parts.of (special : Bool) (t : Text) : Parts :=
  let (t, fragment) := cutAtChar '#' t
  let (front, query) := cutAtChar '?' t
  { front
    query := query.map (Percent.encode (Percent.inQuery special))
    fragment := fragment.map (Percent.encode Percent.inFragment) }

/-- A slash, or a backslash where it counts as one. -/
def isSlash (special : Bool) (c : Char) : Bool := c == '/' || (special && c == '\\')

/-! ### Paths -/

/-- The ways to write the segment that stays. -/
def isSingleDot (s : Text) : Bool := [".".toList, "%2e".toList].contains (Text.asciiLower s)

/-- The ways to write the segment that goes up. -/
def isDoubleDot (s : Text) : Bool :=
  ["..".toList, ".%2e".toList, "%2e.".toList, "%2e%2e".toList].contains (Text.asciiLower s)

/-- A drive letter, with its colon or a bar in its place. -/
def isDrive : Text → Bool
  | [c, d] => c.isAlpha && (d == ':' || d == '|')
  | _ => false

/-- The segments `done`, kept in reverse, without the last one.  A file path keeps its drive. -/
def goUp (file : Bool) : List Text → List Text
  | [] => []
  | s :: done => if file && isDrive s then s :: done else done

/-- The segment as it stands in the URL. -/
def segmentText (file : Bool) (done : List Text) (s : Text) : Text :=
  match s with
  | [c, _] => if file && done.isEmpty && isDrive s then [c, ':'] else Percent.encode Percent.inPath s
  | _ => Percent.encode Percent.inPath s

/-- The segments of a path: those in `done`, kept in reverse, and then the given ones, with single
and double dots carried out. -/
def walk (file : Bool) (done : List Text) : List Text → List Text
  | [] => done.reverse
  | [s] =>
    if isDoubleDot s then ([] :: goUp file done).reverse
    else if isSingleDot s then ([] :: done).reverse
    else (segmentText file done s :: done).reverse
  | s :: ss =>
    if isDoubleDot s then walk file (goUp file done) ss
    else if isSingleDot s then walk file done ss
    else
      let s := segmentText file done s
      walk file (if file && s.isEmpty && done.isEmpty then done else s :: done) ss

/-- The texts between slashes. -/
def splitSlashes (special : Bool) (t : Text) : List Text :=
  Text.splitOnChar '/' (if special then t.map fun c => if c == '\\' then '/' else c else t)

/-- The path that leads from the segments `done`, kept in reverse, along the text `t`. -/
def pathFrom (scheme : Text) (done : List Text) (t : Text) : UrlPath :=
  .segments (walk (isFile scheme) done (splitSlashes (isSpecial scheme) t))

/-- The path after an authority. -/
def pathAfterAuthority (scheme t : Text) : UrlPath :=
  match t with
  | [] => if isSpecial scheme then .segments [[]] else .segments []
  | c :: r => if isSlash (isSpecial scheme) c then pathFrom scheme [] r else pathFrom scheme [] t

/-- The segments of a URL but the last, in reverse. -/
def parents (u : Url) : List Text :=
  match u.path with
  | .segments ss => goUp (isFile u.scheme) ss.reverse
  | .rootless _ => []

/-! ### Authorities -/

/-- The user name and the password before the last at sign of an authority, and what follows. -/
def userinfo (t : Text) : Option Text × Text :=
  match (t.reverse.dropWhile (· != '@')) with
  | [] => (none, t)
  | _ :: front => (some front.reverse, (t.reverse.takeWhile (· != '@')).reverse)

/-- The host in front of a text; a colon ends it unless it stands in brackets. -/
def hostLength (inBrackets : Bool) : Text → Nat
  | [] => 0
  | c :: t =>
    if c == ':' && !inBrackets then 0
    else 1 + hostLength (if c == '[' then true else if c == ']' then false else inBrackets) t

/-- The port written by a text of digits; an empty text and the default port write none. -/
def port? (scheme t : Text) : Except UrlError (Option Nat) :=
  if t.isEmpty then .ok none
  else
    match Text.decimal? t with
    | none => .error .invalidPort
    | some n =>
      if 65535 < n then .error .invalidPort
      else .ok (if defaultPort? scheme = some n then none else some n)

/-- The URL after its scheme and double slash. -/
def withAuthority (scheme t : Text) : Except UrlError Url := do
  let special := isSpecial scheme
  let parts := Parts.of special t
  let site := parts.front.takeWhile fun c => !isSlash special c
  let path := parts.front.drop site.length
  let (user, site) := userinfo site
  let atEnd := path.isEmpty && parts.query.isNone && parts.fragment.isNone
  if user = some [] ∧ site.isEmpty ∧ ¬ atEnd then throw .emptyHost
  let hostText := site.take (hostLength false site)
  let rest := site.drop hostText.length
  if hostText.isEmpty ∧ (special ∨ ¬ rest.isEmpty) then throw .emptyHost
  let host ← if special then Host.ofSpecial hostText else Host.ofOther hostText
  -- a scheme without rules of its own lets a backslash end the port
  let portText := (rest.drop 1).takeWhile (· != '\\')
  let path := (rest.drop 1).drop portText.length ++ path
  let port ← port? scheme portText
  let (username, password) := cutAtChar ':' (user.getD [])
  let username := Percent.encode Percent.inUserinfo username
  let password := match password with
    | some (c :: p) => some (Percent.encode Percent.inUserinfo (c :: p))
    | _ => none
  if hostText.isEmpty ∧ ¬ (username.isEmpty ∧ password.isNone) then throw .emptyHost
  return { scheme
           authority := some { username, password, host, port }
           path := pathAfterAuthority scheme path
           query := parts.query
           fragment := parts.fragment }

/-! ### The kinds of reference -/

/-- A reference without scheme to a base that is no file. -/
def relativeTo (base : Url) (t : Text) : Except UrlError Url :=
  let parts := Parts.of (isSpecial base.scheme) t
  match parts.front with
  | [] =>
    .ok { base with query := if parts.query.isSome then parts.query else base.query
                    fragment := parts.fragment }
  | c :: r =>
    if isSlash true c then
      match r with
      | d :: _ =>
        if isSlash true d then
          match Text.afterPrefix? "//".toList t with
          | some t => withAuthority base.scheme t
          | none => withAuthority base.scheme (t.dropWhile (isSlash true))
        else
          .ok { base with path := pathFrom base.scheme [] r, query := parts.query
                          fragment := parts.fragment }
      | [] =>
        .ok { base with path := pathFrom base.scheme [] r, query := parts.query
                        fragment := parts.fragment }
    else
      .ok { base with path := pathFrom base.scheme base.parents parts.front, query := parts.query
                      fragment := parts.fragment }

/-- The authority of a file without host. -/
def noHost : Authority := { host := .domain [] }

/-- The host of a file: `localhost` and a drive letter are none. -/
def fileHost (t : Text) : Except UrlError Authority :=
  if t.isEmpty then .ok noHost
  else do
    let host ← Host.ofSpecial t
    return { host := if host = .domain "localhost".toList then .domain [] else host }

/-- A text starts with a drive letter that is a segment of its own. -/
def startsWithDrive (t : Text) : Bool := isDrive (t.takeWhile fun c => !isSlash true c)

/-- A reference of scheme `file`, whose own scheme, if any, is left out already. -/
def fileReference (base : Option Url) (t : Text) : Except UrlError Url :=
  let scheme : Text := "file".toList
  let parts := Parts.of true t
  let url := fun (a : Authority) (p : UrlPath) =>
    ({ scheme, authority := some a, path := p, query := parts.query
       fragment := parts.fragment } : Url)
  match parts.front with
  | [] =>
    match base with
    | some b =>
      .ok { b with query := if parts.query.isSome then parts.query else b.query
                   fragment := parts.fragment }
    | none => .ok (url noHost (pathFrom scheme [] []))
  | c :: r =>
    if isSlash true c then
      match r with
      | d :: more =>
        if isSlash true d then
          let hostText := more.takeWhile fun c => !isSlash true c
          if isDrive hostText then .ok (url noHost (pathFrom scheme [] more))
          else do
            let a ← fileHost hostText
            return url a (pathFrom scheme [] (more.drop (hostText.length + 1)))
        else .ok (url ((base.bind (·.authority)).getD noHost) (pathFrom scheme [] r))
      | [] => .ok (url ((base.bind (·.authority)).getD noHost) (pathFrom scheme [] r))
    else
      match base with
      | some b =>
        if startsWithDrive parts.front then .ok (url noHost (pathFrom scheme [] parts.front))
        else
          .ok { b with path := pathFrom scheme b.parents parts.front, query := parts.query
                       fragment := parts.fragment }
      | none => .ok (url noHost (pathFrom scheme [] parts.front))

/-- A text after a scheme without rules of its own. -/
def afterOtherScheme (scheme t : Text) : Except UrlError Url :=
  match Text.afterPrefix? "//".toList t with
  | some r => withAuthority scheme r
  | none =>
    let parts := Parts.of false t
    let path := match parts.front with
      | '/' :: r => pathFrom scheme [] r
      | f => .rootless (Percent.encode Percent.control f)
    .ok { scheme, path, query := parts.query, fragment := parts.fragment }

/-- The URL that a reference means, starting from a base if there is one. -/
def resolve (base : Option Url) (reference : Text) : Except UrlError Url :=
  let t := significant reference
  match scheme? t with
  | some (scheme, rest) =>
    if isFile scheme then fileReference (base.filter fun b => isFile b.scheme) rest
    else if isSpecial scheme then
      match base.filter fun b => b.scheme = scheme ∧ (rest.takeWhile (isSlash true)).length < 2 with
      | some b => relativeTo b rest
      | none => withAuthority scheme (rest.dropWhile (isSlash true))
    else afterOtherScheme scheme rest
  | none =>
    match base with
    | none => .error .relativeWithoutBase
    | some b =>
      match t with
      | '#' :: f => .ok { b with fragment := some (Percent.encode Percent.inFragment f) }
      | _ =>
        if !b.canBeBase then .error .relativeToRootless
        else if isFile b.scheme then fileReference (some b) t
        else relativeTo b t

/-- The URL of a text. -/
def parse (t : Text) : Except UrlError Url := resolve none t

end Url

end ChapterAssembly
