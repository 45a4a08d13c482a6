/-
**Requests as they are sent.**

A request carries the headers that every request is sent with and those of its own.  Names of
headers do not differ by letter case; of two values for a name, that of the request itself counts.
Every name and value must be one that can be sent, also a value that does not count in the end.

Main definitions:

* `ChapterAssembly.Request` — a request;
* `Request.headersOf` — the headers of a request;
* `Request.isSendable` — the URLs that a request can be sent to.

Main results:

* `Request.lookup_set` — what a name means after a header was set.
-/

import ChapterAssembly.Fetch.Basic
import ChapterAssembly.Url.Parse

set_option relaxedAutoImplicit false
set_option autoImplicit false

namespace ChapterAssembly

/-- A request, with the names of its headers in lower case. -/
structure Request where
  url : Url
  headers : List (Text × Text)
deriving Repr, DecidableEq

namespace Request

/-! ### Headers -/

/-- The characters that the name of a header may hold. -/
def isNameChar (c : Char) : Bool := c.isAlphanum || "!\"#$%&'*+-.^_`|~".toList.contains c

/-- The longest name of a header. -/
def longestName : Nat := 65535

/-- A name that a header can have. -/
def isName (t : Text) : Bool := !t.isEmpty && t.length ≤ longestName && t.all isNameChar

/-- The characters that the value of a header may hold: all but control characters, and tabs. -/
def isValueChar (c : Char) : Bool := c == '\t' || (32 ≤ c.toNat && c.toNat != 127)

/-- A value that a header can have. -/
def isValue (t : Text) : Bool := t.all isValueChar

/-- Some headers with one more, in place of one of the same name.  There may be any number of them;
that a map of headers is full at some size is left out. -/
def set (name value : Text) : List (Text × Text) → List (Text × Text)
  | [] => [(name, value)]
  | (n, v) :: hs => if n = name then (name, value) :: hs else (n, v) :: set name value hs

/-- Some headers with others that are to be sent too. -/
def setAll (hs : List (Text × Text)) : List (Text × Text) → Except FetchError (List (Text × Text))
  | [] => .ok hs
  | (name, value) :: rest =>
    if isName name && isValue value then setAll (set (Text.asciiLower name) value hs) rest
    else .error (.invalidHeader name)

/-- The headers of a request. -/
def headersOf (standard own : List (Text × Text)) : Except FetchError (List (Text × Text)) :=
  setAll [] (standard ++ own)

/-- **A name means the value that was set, and every other name what it meant.** -/
theorem lookup_set (name value n : Text) (hs : List (Text × Text)) :
    (set name value hs).lookup n = if n = name then some value else hs.lookup n := by
  induction hs with
  | nil =>
    by_cases h : n = name
    · simp [set, h]
    · have : (n == name) = false := by simpa using h
      simp [set, List.lookup_cons, this, h]
  | cons q hs ih =>
    obtain ⟨m, v⟩ := q
    simp only [set]
    split
    · next hm =>
      subst hm
      by_cases h : n = m
      · simp [h]
      · have : (n == m) = false := by simpa using h
        simp [List.lookup_cons, this, h]
    · next hm =>
      by_cases h : n = m
      · subst h
        simp [hm]
      · have : (n == m) = false := by simpa using h
        simp [List.lookup_cons, this, ih]

/-! ### URLs -/

/-- The longest URL that a request can be sent to. -/
def longestUrl : Nat := 65534

/-- The schemes that requests are sent by. -/
def isWeb (u : Url) : Bool := u.scheme == "http".toList || u.scheme == "https".toList

/-- A URL that a request can be sent to.  Some characters may stand in a host but not in a
request. -/
def isSendable (u : Url) : Bool :=
  isWeb u && u.text.length ≤ longestUrl &&
    (u.hostText?.getD []).all fun c => !"\"`\x7b\x7d".toList.contains c

end Request

end ChapterAssembly
