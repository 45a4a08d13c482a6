/-
**JSON.**

Main definitions:

* `ChapterAssembly.Json` — a JSON value, written by `Json.text` and, with line breaks, by
  `Json.pretty`;
* `ChapterAssembly.JsonError` — why a text is not the JSON that is wanted.
-/

import ChapterAssembly.Text.Basic

set_option relaxedAutoImplicit false
set_option autoImplicit false

namespace ChapterAssembly

/-- Why a text is not the JSON that is wanted. -/
inductive JsonError where
  /-- It is no JSON. -/
  | malformed
  /-- It is JSON of another shape. -/
  | mismatched
  /-- It ends too early. -/
  | truncated
deriving Repr, DecidableEq, BEq

/-- The wording of an error. -/
def JsonError.message : JsonError → Text
  | .malformed => "not JSON"
  | .mismatched => "another value is wanted"
  | .truncated => "the text ends too early"

/-- A JSON value; members of an object stand in the order in which they are written. -/
inductive Json where
  | null
  | bool (b : Bool)
  | number (n : Nat)
  | string (t : Text)
  | array (js : List Json)
  | object (members : List (Text × Json))
deriving Inhabited

namespace Json

/-- A text or nothing. -/
def ofOption : Option Text → Json
  | none => null
  | some t => string t

/-- The hexadecimal digits of a control character. -/
def controlDigits (c : Char) : Text := Text.padStart 2 '0' (Nat.toDigits 16 c.toNat)

/-- A character inside a JSON text. -/
def escapeChar (c : Char) : Text :=
  match c with
  | '"' => "\\\""
  | '\\' => "\\\\"
  | '\x08' => "\\b"
  | '\x0c' => "\\f"
  | '\n' => "\\n"
  | '\r' => "\\r"
  | '\t' => "\\t"
  | _ => if c.toNat < 32 then "\\u00".toList ++ controlDigits c else [c]

/-- A text between double quotes. -/
def quoted (t : Text) : Text := '"' :: t.flatMap escapeChar ++ ['"']

/-- Some written values between brackets, each on a line of its own at the given depth. -/
def block (depth : Nat) (first last : Char) (items : List Text) : Text :=
  if items.isEmpty then [first, last]
  else
    let line := fun (d : Nat) => '\n' :: List.replicate (2 * d) ' '
    [first] ++ Text.joinWith [','] (items.map (line (depth + 1) ++ ·)) ++ line depth ++ [last]

mutual

/-- A value with line breaks, at the given depth. -/
def prettyAt (depth : Nat) : Json → Text
  | null => "null"
  | bool b => if b then "true" else "false"
  | number n => Text.ofNat n
  | string t => quoted t
  | array js => block depth '[' ']' (prettyItems depth js)
  | object ms => block depth '\x7b' '\x7d' (prettyMembers depth ms)

/-- The values of an array with line breaks. -/
def prettyItems (depth : Nat) : List Json → List Text
  | [] => []
  | j :: js => prettyAt (depth + 1) j :: prettyItems depth js

/-- The members of an object with line breaks. -/
def prettyMembers (depth : Nat) : List (Text × Json) → List Text
  | [] => []
  | (k, j) :: ms => (quoted k ++ [':', ' '] ++ prettyAt (depth + 1) j) :: prettyMembers depth ms

end

/-- A value with line breaks, two blanks deeper at each level. -/
def pretty (j : Json) : Text := prettyAt 0 j

end Json

end ChapterAssembly
