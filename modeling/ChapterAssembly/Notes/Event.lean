/-
**Events.**

While it works, the library tells what it does: each event has a level, a message and named fields.

Main definitions:

* `ChapterAssembly.Event` — an event;
* `Text.option` — an optional text as a field shows it.
-/

import ChapterAssembly.Text.Quoted

set_option relaxedAutoImplicit false
set_option autoImplicit false

namespace ChapterAssembly

/-- How much an event matters. -/
inductive Level where
  | trace
  | debug
  | info
  | warn
  | error
deriving Repr, DecidableEq, BEq

/-- The name of a level. -/
def Level.name : Level → String
  | trace => "TRACE"
  | debug => "DEBUG"
  | info => "INFO"
  | warn => "WARN"
  | error => "ERROR"

/-- Something that happened, with what it happened to. -/
structure Event where
  level : Level
  message : String
  fields : List (String × Text) := []
deriving Repr, DecidableEq

namespace Text

/-- An optional value as diagnostics show it. -/
def option : Option Text → Text
  | none => "None"
  | some t => "Some(" ++ t ++ ")"

/-- A truth value in words. -/
def ofBool (b : Bool) : Text := if b then "true" else "false"

end Text

end ChapterAssembly
