/-
**Fetchers.**

A fetcher turns what is asked for into a request that can be sent.  What may hinder it is looked at
in a fixed order: the quota, if there is one, and a cancellation while it is waited for; the URL;
the headers; a cancellation; and whether a request can be sent to such a URL at all.

Main definitions:

* `ChapterAssembly.Fetcher`, `Fetcher.ofConfig` — a fetcher, made from settings;
* `Fetcher.prepare` — what becomes of one attempt.
-/

import ChapterAssembly.Fetch.Config
import ChapterAssembly.Fetch.Quota
import ChapterAssembly.Fetch.Request
import ChapterAssembly.Notes.Event

set_option relaxedAutoImplicit false
set_option autoImplicit false

namespace ChapterAssembly

/-- A fetcher. -/
structure Fetcher where
  config : FetchConfig
  quota : Option Quota
  /-- The time, in billionths of a second. -/
  now : Nat := 0

/-- What became of an attempt: what was told of it, and the request to send. -/
structure Attempt where
  result : Except FetchError Request
  events : List Event := []

namespace Fetcher

/-- The fetcher with the given settings; there is none if the name it goes by cannot be sent. -/
def ofConfig (c : FetchConfig) : Except FetchError Fetcher :=
  if Request.isValue c.userAgent then
    .ok { config := c, quota := c.requestsPerMinute.map fun n => { perMinute := n } }
  else .error (.http .builder)

/-- A cancellation, set for a time or for none, has come. -/
def isCancelled (cancelAt : Option Nat) (now : Nat) : Bool :=
  match cancelAt with
  | some t => t ≤ now
  | none => false

/-- A fetcher after the wait for a permit, and whether the permit came before a cancellation. -/
def await (f : Fetcher) (cancelAt : Option Nat) : Bool × Fetcher :=
  match f.quota with
  | none => (true, f)
  | some q =>
    let ready := q.ready f.now
    match cancelAt with
    | some t =>
      if t ≤ ready then (false, { f with now := max f.now t })
      else (true, { f with quota := some (q.use ready), now := ready })
    | none => (true, { f with quota := some (q.use ready), now := ready })

/-- The URL and the headers of a request for a target. -/
def request (f : Fetcher) (target : FetchTarget) : Except FetchError Request := do
  let url ← (Url.parse target.url).mapError .url
  return ⟨url, ← Request.headersOf f.config.defaultHeaders target.headers⟩

/-- One attempt to make a request, with a cancellation set for a time or for none. -/
def prepare (f : Fetcher) (target : FetchTarget) (cancelAt : Option Nat) : Attempt × Fetcher :=
  let (permitted, f) := f.await cancelAt
  if !permitted then (⟨.error .cancelled, []⟩, f)
  else
    match f.request target with
    | .error e => (⟨.error e, []⟩, f)
    | .ok r =>
      let result :=
        if isCancelled cancelAt f.now then .error .cancelled
        else if Request.isSendable r.url then .ok r
        else .error (.http .builder)
      (⟨result, [⟨.debug, "Sending GET request", []⟩]⟩, f)

end Fetcher

end ChapterAssembly
