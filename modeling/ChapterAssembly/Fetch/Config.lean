/-
**How pages are requested.**

Main definitions:

* `ChapterAssembly.FetchConfig` — the settings of a fetcher.
-/

import ChapterAssembly.Book.Headers

set_option relaxedAutoImplicit false
set_option autoImplicit false

namespace ChapterAssembly

/-- The settings of a fetcher. -/
structure FetchConfig where
  userAgent : Text := "folio/0.1.0"
  /-- How long a request may take. -/
  timeoutSeconds : Nat := 30
  maxRedirects : Nat := 10
  /-- How many requests may be made in a minute, if that is limited. -/
  requestsPerMinute : Option Nat := none
  /-- What every request is sent with, unless the request says otherwise. -/
  defaultHeaders : Headers := []
deriving Repr, DecidableEq

namespace FetchConfig

/-- A limit of requests per minute; zero is none. -/
def withRequestsPerMinute (c : FetchConfig) (n : Nat) : FetchConfig :=
  { c with requestsPerMinute := if n = 0 then none else some n }

/-- A header sent with every request. -/
def withHeader (c : FetchConfig) (name value : Text) : FetchConfig :=
  { c with defaultHeaders := c.defaultHeaders.insert name value }

/-- How long a request may take, in milliseconds. -/
def timeoutMillis (c : FetchConfig) : Nat := c.timeoutSeconds * 1000

end FetchConfig

end ChapterAssembly
