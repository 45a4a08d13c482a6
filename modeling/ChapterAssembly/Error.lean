/-
**Errors of the whole library.**

Main definitions:

* `ChapterAssembly.Error` — the causes, with their wording;
* `FetchError.toError`, `RuleError.toError`, `StorageError.toError`, `ContentError.toError` — the
  errors of the parts, as errors of the whole.
-/

import ChapterAssembly.Content.Error
import ChapterAssembly.Json.Basic

set_option relaxedAutoImplicit false
set_option autoImplicit false

namespace ChapterAssembly

/-- Why an operation of the library fails. -/
inductive Error where
  | http (failure : HttpFailure)
  | json (error : JsonError)
  | fetch (message : Text)
  | rule (message : Text)
  | emptyContent (chapter : Text)
  | cancelled
  | storage (message : Text)
  | other (message : Text)
deriving Repr, DecidableEq

/-- The wording of an error. -/
def Error.message : Error → Text
  | .http f => "HTTP error: " ++ f.message
  | .json e => "JSON error: " ++ e.message
  | .fetch m => "Fetch error: " ++ m
  | .rule m => "Rule error: " ++ m
  | .emptyContent chapter => "Empty content: " ++ chapter
  | .cancelled => "Operation cancelled"
  | .storage m => "Storage error: " ++ m
  | .other m => m

/-- A failed request as an error of the library. -/
def FetchError.toError : FetchError → Error
  | .http f => .http f
  | .cancelled => .cancelled
  | e => .fetch e.message

/-- A broken rule as an error of the library. -/
def RuleError.toError (e : RuleError) : Error := .rule e.message

/-- A failure of storage as an error of the library. -/
def StorageError.toError (e : StorageError) : Error := .storage e.message

/-- A chapter without text as an error of the library. -/
def ContentError.toError : ContentError → Error
  | .fetch e => e.toError
  | .missingBody url => .fetch (ContentError.missingBody url).message
  | .contentRule e => e.toError
  | .replaceRule e => e.toError
  | .emptyContent chapter => .emptyContent chapter
  | .cancelled => .cancelled
  | .storage e => e.toError
  | .noSlot reason => .other (ContentError.noSlot reason).message
  | .taskLost reason => .other (ContentError.taskLost reason).message

end ChapterAssembly
