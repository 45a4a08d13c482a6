/-
**Why a chapter has no text.**

Main definitions:

* `ChapterAssembly.ContentError` — the causes, with their wording;
* `ChapterAssembly.ErrorKind` — what a caller can do about them;
* `ContentError.ofFetch` — the error of a page that did not come.
-/

import ChapterAssembly.Fetch.Basic
import ChapterAssembly.Rule.Basic
import ChapterAssembly.Store.Error
import ChapterAssembly.Text.Quoted

set_option relaxedAutoImplicit false
set_option autoImplicit false

namespace ChapterAssembly

/-- Why a chapter has no text. -/
inductive ContentError where
  | fetch (error : FetchError)
  /-- A page came back without a body. -/
  | missingBody (url : Text)
  | contentRule (error : RuleError)
  | replaceRule (error : RuleError)
  /-- The text of the chapter is blank. -/
  | emptyContent (chapter : Text)
  | cancelled
  | storage (error : StorageError)
  /-- No slot of the pool could be had, with the reason. -/
  | noSlot (reason : Text)
  /-- A task ended without a result, with the reason. -/
  | taskLost (reason : Text)
deriving Repr, DecidableEq

/-- What a caller can do about an error. -/
inductive ErrorKind where
  /-- The same request may succeed later. -/
  | fetch
  /-- A rule is broken. -/
  | rule
  /-- The rules find nothing. -/
  | emptyContent
  | cancelled
  | storage
  | internal
deriving Repr, DecidableEq, BEq

/-- The name of a kind. -/
def ErrorKind.name : ErrorKind → String
  | fetch => "Fetch"
  | rule => "Rule"
  | emptyContent => "EmptyContent"
  | cancelled => "Cancelled"
  | storage => "Storage"
  | internal => "Internal"

namespace ContentError

/-- The wording of an error. -/
def message : ContentError → Text
  | fetch e => "Fetch error: " ++ e.message
  | missingBody url => "failed to fetch " ++ url
  | contentRule e => "Content rule error: " ++ e.message
  | replaceRule e => "Replace rule error: " ++ e.message
  | emptyContent chapter => "Chapter content is empty: " ++ chapter
  | cancelled => "Chapter fetch cancelled"
  | storage e => "Storage error: " ++ e.message
  | noSlot reason => "Semaphore acquisition error: " ++ reason
  | taskLost reason => "Task join error: " ++ reason

/-- The kind of an error. -/
def kind : ContentError → ErrorKind
  | fetch _ => .fetch
  | missingBody _ => .fetch
  | contentRule _ => .rule
  | replaceRule _ => .rule
  | emptyContent _ => .emptyContent
  | cancelled => .cancelled
  | storage _ => .storage
  | noSlot _ => .internal
  | taskLost _ => .internal

/-- The caller has given up. -/
def isCancelled : ContentError → Bool
  | cancelled => true
  | _ => false

/-- The error of a page that did not come; a cancelled request is not told as a failed one. -/
def ofFetch : FetchError → ContentError
  | .cancelled => cancelled
  | e => fetch e

/-- The error of a pool that is closed. -/
def poolClosed : ContentError := noSlot "Failed to acquire semaphore: semaphore closed"

/-- The error of the task with the given number, which died with a message. -/
def ofDeath (task : Nat) (m : Text) : ContentError :=
  taskLost ("Failed to join task: task " ++ Text.ofNat task ++ " panicked with message " ++
    Text.quoted m)

/-- The error of the task with the given number, which was told to stop. -/
def ofStop (task : Nat) : ContentError :=
  taskLost ("Failed to join task: task " ++ Text.ofNat task ++ " was cancelled")

end ContentError

end ChapterAssembly
