/-
**Request headers.**

Headers are a map from names to values.  The pairs are kept in the order of their names, so that two
maps are equal exactly if they hold the same pairs.

Main definitions:

* `ChapterAssembly.Headers` — names with values, ordered by name;
* `Headers.insert` — a header set, in place of one of the same name.
-/

import ChapterAssembly.Text.Basic

set_option relaxedAutoImplicit false
set_option autoImplicit false

namespace ChapterAssembly

namespace Text

/-- One text comes before another in the order of their characters. -/
def before : Text → Text → Bool
  | _, [] => false
  | [], _ :: _ => true
  | c :: s, d :: t => if c = d then before s t else c.toNat < d.toNat

end Text

/-- Names with values, ordered by name. -/
abbrev Headers := List (Text × Text)

namespace Headers

/-- A header set, in place of one of the same name. -/
def insert (name value : Text) : Headers → Headers
  | [] => [(name, value)]
  | (n, v) :: hs =>
    if n = name then (name, value) :: hs
    else if Text.before name n then (name, value) :: (n, v) :: hs
    else (n, v) :: insert name value hs

/-- The headers of some pairs; of two with one name the later counts. -/
def ofList (ps : List (Text × Text)) : Headers := ps.foldl (fun hs p => insert p.1 p.2 hs) []

end Headers

end ChapterAssembly
