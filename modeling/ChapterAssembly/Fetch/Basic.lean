/-
**Requests and the pages they bring.**

Main definitions:

* `ChapterAssembly.FetchTarget` — what is asked for;
* `ChapterAssembly.FetchedPage` — what came back;
* `ChapterAssembly.FetchError` — why nothing came back, with its wording.
-/

import ChapterAssembly.Book.Headers
import ChapterAssembly.Url.Error

set_option relaxedAutoImplicit false
set_option autoImplicit false

namespace ChapterAssembly

/-- A URL to ask for, and the headers to send. -/
structure FetchTarget where
  url : Text
  headers : Headers := []
deriving Repr, DecidableEq

/-- A page as it came back. -/
structure FetchedPage where
  /-- The URL that was asked for. -/
  requestedUrl : Text
  /-- The URL that the page came from, after redirects. -/
  finalUrl : Text
  body : Option Text
deriving Repr, DecidableEq

/-- The kinds of failure of a connection. -/
inductive HttpFailure where
  /-- The request cannot be built. -/
  | builder
  | redirect
  | timeout
  | connect
  | other
deriving Repr, DecidableEq, BEq

/-- The wording of a kind of failure. -/
def HttpFailure.message : HttpFailure → Text
  | .builder => "the request cannot be built"
  | .redirect => "too many redirects"
  | .timeout => "the server took too long"
  | .connect => "no connection"
  | .other => "the connection failed"

/-- Why no page came back. -/
inductive FetchError where
  | http (failure : HttpFailure)
  /-- The server answered with a status other than success. -/
  | status (url : Text) (status : Nat)
  | url (error : UrlError)
  /-- A header has a name or value that cannot be sent. -/
  | invalidHeader (name : Text)
  | cancelled
  | other (message : Text)
deriving Repr, DecidableEq

/-- The wording of an error. -/
def FetchError.message : FetchError → Text
  | .http f => "HTTP error: " ++ f.message
  | .status address code => "GET " ++ address ++ " returned " ++ Text.ofNat code
  | .url e => "URL parsing error: " ++ e.message
  | .invalidHeader name => "Invalid header '" ++ name ++ "'"
  | .cancelled => "Request cancelled"
  | .other m => m

end ChapterAssembly
