/-
**Scripted pages.**

To see how runs behave, pages can be scripted: what a request for a URL brings, and after which time.

Main definitions:

* `Schedule.Scripted` — what a request brings;
* `Schedule.Web` — scripted pages by their URLs.
-/

import ChapterAssembly.Fetch.Basic
import ChapterAssembly.Url.Parse

set_option relaxedAutoImplicit false
set_option autoImplicit false

namespace ChapterAssembly

namespace Schedule

/-- How a request ends. -/
inductive Ending where
  | page
  | status (code : Nat)
  | fail (message : Text)
  | badHeader (name : Text)
  /-- The error that a text gives which is no URL. -/
  | badUrl (text : Text)
  | cancelled
  /-- Whoever made the request dies. -/
  | death (message : Text)
deriving Repr

/-- What a request brings, after a delay in milliseconds. -/
structure Scripted where
  body : Option Text := none
  finalUrl : Option Text := none
  delay : Nat := 0
  ending : Ending := .page
deriving Repr

/-- Scripted pages by their URLs. -/
abbrev Web := List (Text × Scripted)

/-- What a request comes to. -/
inductive Outcome where
  | reply (r : Except FetchError FetchedPage)
  | death (message : Text)

/-- A page as it was scripted. -/
def Scripted.page (s : Scripted) (url : Text) : FetchedPage :=
  ⟨url, s.finalUrl.getD url, s.body⟩

/-- What the request for a scripted page comes to. -/
def Scripted.outcome (s : Scripted) (url : Text) : Outcome :=
  match s.ending with
  | .page => .reply (.ok (s.page url))
  | .status code => .reply (.error (.status url code))
  | .fail m => .reply (.error (.other m))
  | .badHeader name => .reply (.error (.invalidHeader name))
  | .badUrl t =>
    match Url.parse t with
    | .error e => .reply (.error (.url e))
    | .ok _ => .reply (.ok (s.page url))
  | .cancelled => .reply (.error .cancelled)
  | .death m => .death m

namespace Web

/-- What is scripted for a URL. -/
def find? (w : Web) (url : Text) : Option Scripted := w.lookup url

/-- How long a request takes; one for an unknown URL is refused at once. -/
def delay (w : Web) (url : Text) : Nat := ((w.find? url).map (·.delay)).getD 0

/-- What a request comes to. -/
def outcome (w : Web) (url : Text) : Outcome :=
  match w.find? url with
  | some s => s.outcome url
  | none => .reply (.error (.status url 404))

end Web

end Schedule

end ChapterAssembly
