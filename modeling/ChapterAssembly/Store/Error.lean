/-
**Why storing or loading fails.**

Main definitions:

* `ChapterAssembly.StorageError` — the causes, with their wording.
-/

import ChapterAssembly.Url.Error

set_option relaxedAutoImplicit false
set_option autoImplicit false

namespace ChapterAssembly

/-- Why storing or loading fails. -/
inductive StorageError where
  /-- The file system refuses, with its reason. -/
  | io (reason : Text)
  /-- A catalog cannot be written, with the reason. -/
  | unwritable (reason : Text)
  /-- A file is no catalog, with the reason. -/
  | unreadable (reason : Text)
  /-- The address of a book is no URL. -/
  | url (error : UrlError)
  /-- The address of a book has no host. -/
  | noHost (url : Text)
  | notFound (message : Text)
deriving Repr, DecidableEq

/-- The wording of an error. -/
def StorageError.message : StorageError → Text
  | .io reason => "IO error: " ++ reason
  | .unwritable reason => "XML serialization error: " ++ reason
  | .unreadable reason => "XML deserialization error: " ++ reason
  | .url e => "URL parsing error: " ++ e.message
  | .noHost address => "Invalid URL for storage: " ++ address
  | .notFound m => "Not found: " ++ m

end ChapterAssembly
